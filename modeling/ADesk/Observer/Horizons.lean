/- ADesk/Observer/Horizons
   digest: The instant a wait sleeps until against the horizon it waits for. -/

import ADesk.Observer.Timing

set_option autoImplicit false

namespace ADesk.Observer.Horizons

open ADesk.Core.Time
open ADesk.Foundation.Execution
open ADesk.Observer.ClockDomain
open ADesk.Observer.Run
open ADesk.Observer.Timing
open ADesk.Observer.Waiter

/-! ## The deadline of a clock -/

/-- No instant before the deadline is the first one at which the timestamp is reached. -/
def ReachedByDeadline (clock : Clock) (now : Instant) (tsMs : ℕ) : Prop :=
  ∃ first ≤ clock.deadline now tsMs, tsMs ≤ clock.nowMs first

theorem reached_by_deadline_iff_now (clock : Clock) (now : Instant) (tsMs : ℕ) :
    ReachedByDeadline clock now tsMs ↔ tsMs ≤ clock.nowMs (clock.deadline now tsMs) := by
  constructor
  · rintro ⟨first, early, reached⟩
    exact Nat.le_trans reached (now_ms_later clock early)
  · intro reached
    exact ⟨_, Nat.le_refl _, reached⟩

/-- The milliseconds that pass from the anchor to the deadline are those still missing at `now`. -/
theorem now_ms_deadline (clock : Clock) (now : Instant) (tsMs : ℕ) :
    clock.nowMs (clock.deadline now tsMs) =
      saturatingAdd clock.anchorTsMs (min (tsMs - clock.nowMs now) u64Max) := by
  unfold Clock.deadline
  change saturatingAdd _ (min ((clock.anchorInstant + _ * nanosPerMilli - clock.anchorInstant) /
    nanosPerMilli) u64Max) = _
  rw [Nat.add_sub_cancel_left, Nat.mul_div_cancel _ (by decide)]

/-- The deadline is late enough exactly for the timestamps at or before the anchor, and for all of
them within a millisecond of the anchor: the time since then is missing in it. -/
theorem reached_by_deadline_iff {clock : Clock} {now : Instant} {tsMs : ℕ}
    (anchor : clock.anchorTsMs ≤ u64Max) (range : tsMs ≤ u64Max) :
    ReachedByDeadline clock now tsMs ↔
      tsMs ≤ clock.anchorTsMs ∨ elapsedMs clock.anchorInstant now = 0 := by
  rw [reached_by_deadline_iff_now, now_ms_deadline]
  unfold Clock.nowMs saturatingAdd
  omega

/-! ## Timer wakeups -/

/-- The horizon of a wait: its quiet deadline or its timeout, whichever comes first. -/
def horizonOf (wait : Wait) : ℕ :=
  match wait.plan.quietDeadlineMs (max wait.plan.anchorTs (wait.accumulator.lastCommitTs.getD 0)) with
  | some quiet => min quiet wait.plan.deadlineMs
  | none => wait.plan.deadlineMs

/-- The horizon for which a step wakes the waiter by its timer. -/
def alarm (s : Run.State) (label : Label) (waiter : ℕ) : List ℕ :=
  match label with
  | .wakeTimer woken =>
    if woken = waiter then
      match s.waits waiter with
      | .running wait => [horizonOf wait]
      | _ => []
    else []
  | _ => []

/-- The observer with the horizons of all timer wakeups of each waiter. -/
structure Alarmed where
  observer : Run.State
  fired : ℕ → List ℕ

def step (state : Alarmed) (label : Label) : Option Alarmed :=
  (Run.step state.observer label).map fun observer =>
    ⟨observer, fun waiter => state.fired waiter ++ alarm state.observer label waiter⟩

def alarmed : Machine Alarmed Label := ⟨⟨machine.init, fun _ => []⟩, step⟩

/-- A wait is put to sleep within a millisecond of the clock's anchor, or its horizon has passed
while it was deciding. -/
def onTime (s : Run.State) : Label → Bool
  | .waitStep waiter =>
    match s.waits waiter with
    | .running wait =>
      match wait.phase with
      | .scheduling horizon =>
        decide (horizon ≤ s.nowMs) || decide (elapsedMs s.clock.anchorInstant s.instant = 0)
      | _ => true
    | _ => true
  | _ => true

def OnTime (state : Alarmed) (label : Label) : Prop := onTime state.observer label = true

instance (state : Alarmed) (label : Label) : Decidable (OnTime state label) :=
  inferInstanceAs (Decidable (_ = true))

theorem on_time_scheduling {s : Run.State} {waiter horizon : ℕ} {wait : Wait}
    (running : s.waits waiter = .running wait) (phase : wait.phase = .scheduling horizon) :
    onTime s (.waitStep waiter) = true ↔
      horizon ≤ s.nowMs ∨ elapsedMs s.clock.anchorInstant s.instant = 0 := by
  unfold onTime
  simp only [running, phase, Bool.or_eq_true, decide_eq_true_eq]

/-- Whenever such a sleep ends, its horizon is reached. -/
theorem reached_after_sleep {clock : Clock} {now instant : Instant} {horizon : ℕ}
    (onTime : horizon ≤ clock.nowMs now ∨ elapsedMs clock.anchorInstant now = 0)
    (range : horizon ≤ u64Max) (later : now ≤ instant)
    (slept : clock.deadline now horizon ≤ instant) : horizon ≤ clock.nowMs instant := by
  rcases onTime with passed | fresh
  · exact Nat.le_trans passed (now_ms_later clock later)
  · have atDeadline : horizon ≤ clock.nowMs (clock.deadline now horizon) := by
      rw [now_ms_deadline]
      unfold Clock.nowMs saturatingAdd
      omega
    exact Nat.le_trans atDeadline (now_ms_later clock slept)

/-- Where a wait stands against the horizons for which its timer fired before. -/
def Ahead (s : Run.State) (fired : List ℕ) (wait : Wait) : Prop :=
  match wait.phase with
  | .absorbing _ now => ∀ horizon ∈ fired, horizon ≤ now
  | .deciding _ now anchor met =>
    anchor = max wait.plan.anchorTs (wait.accumulator.lastCommitTs.getD 0) ∧
      met = conditionMet wait.plan.condition wait.accumulator wait.plan.anchorTs now ∧
      ∀ horizon ∈ fired, horizon ≤ now
  | .scheduling next => next = horizonOf wait ∧ ∀ horizon ∈ fired, horizon < next
  | .parked sleepUntil =>
    (∀ instant, s.instant ≤ instant → sleepUntil ≤ instant →
      horizonOf wait ≤ s.clock.nowMs instant) ∧ ∀ horizon ∈ fired, horizon < horizonOf wait
  | _ => True

theorem horizon_range (wait : Wait) : horizonOf wait ≤ u64Max := by
  have bound : wait.plan.deadlineMs ≤ u64Max := Nat.min_le_right _ _
  unfold horizonOf
  split
  · exact Nat.le_trans (Nat.min_le_right _ _) bound
  · exact bound

theorem ahead_timeless {s : Run.State} {fired : List ℕ} {wait : Wait}
    (timeless : WaitPhase.timeless wait.phase = true) : Ahead s fired wait := by
  unfold Ahead
  cases phase : wait.phase <;> first | trivial | (rw [phase] at timeless; cases timeless)

theorem Ahead.later {s t : Run.State} {fired : List ℕ} {wait : Wait} (ahead : Ahead s fired wait)
    (instant : s.instant ≤ t.instant)
    (clock : ∀ instant, s.clock.nowMs instant ≤ t.clock.nowMs instant) : Ahead t fired wait := by
  unfold Ahead at ahead ⊢
  cases phase : wait.phase with
  | parked sleepUntil =>
    simp only [phase] at ahead ⊢
    refine ⟨fun later order slept => ?_, ahead.2⟩
    exact Nat.le_trans (ahead.1 later (Nat.le_trans instant order) slept) (clock later)
  | absorbing | deciding | scheduling =>
    simp only [phase] at ahead ⊢
    exact ahead
  | checking | subscribing | registering | looping | reading | stamping | resolving | releasing
  | done | failed | cancelled => trivial

/-- A wait sleeps only for a horizon that lies ahead of its clock reading. -/
theorem ahead_decided {s : Run.State} {fired : List ℕ} {wait : Wait}
    {generation now anchor : ℕ} {met : Bool}
    (anchored : anchor = max wait.plan.anchorTs (wait.accumulator.lastCommitTs.getD 0))
    (evaluated : met = conditionMet wait.plan.condition wait.accumulator wait.plan.anchorTs now)
    (passed : ∀ horizon ∈ fired, horizon ≤ now) :
    Ahead s fired { wait with phase := decideWait s wait.plan generation now anchor met } := by
  unfold decideWait
  split
  · split <;> trivial
  · next unmet =>
    split
    · trivial
    · next before =>
      subst anchored
      refine ⟨rfl, fun horizon member => Nat.lt_of_le_of_lt (passed horizon member) ?_⟩
      rw [evaluated] at unmet
      unfold WaitPlan.quietDeadlineMs
      cases condition : wait.plan.condition with
      | change | timeout => exact Nat.not_le.mp before
      | quiet quietMs =>
        rw [condition] at unmet
        unfold conditionMet at unmet
        simp only [decide_eq_true_eq] at unmet
        have deadline : wait.plan.deadlineMs ≤ u64Max := Nat.min_le_right _ _
        simp only
        unfold saturatingAdd
        omega

theorem ahead_timed {s : Run.State} {label : Label} {waiter : ℕ} {fired : List ℕ}
    {wait moved : Wait} (punctual : onTime s label = true)
    (running : s.waits waiter = .running wait) (passed : ∀ horizon ∈ fired, horizon ≤ s.nowMs)
    (ahead : Ahead s fired wait) (timed : Timed s wait moved)
    (own : label = .waitStep waiter ∨ WaitPhase.timeless moved.phase = true) :
    Ahead s fired moved := by
  cases timed with
  | timeless _ _ idle => exact ahead_timeless idle
  | read generation phase => exact passed
  | absorbed generation now phase =>
    unfold Ahead at ahead
    simp only [phase] at ahead
    exact ⟨rfl, rfl, ahead⟩
  | decided generation now anchor met phase =>
    unfold Ahead at ahead
    simp only [phase] at ahead
    exact ahead_decided ahead.1 ahead.2.1 ahead.2.2
  | scheduled horizon phase =>
    unfold Ahead at ahead
    simp only [phase] at ahead
    obtain ⟨same, fewer⟩ := ahead
    rcases own with own | idle
    · subst own
      have ready := (on_time_scheduling running phase).mp punctual
      rw [same] at ready
      refine ⟨fun instant later slept => ?_, fun other member => same ▸ fewer other member⟩
      rw [same] at slept
      exact reached_after_sleep ready (horizon_range wait) later slept
    · cases idle
  | stamped | resolved | released => trivial

/-- The timer of a waiter fired for ascending horizons, each of which the clock has reached. -/
structure Ascends (state : Alarmed) (waiter : ℕ) : Prop where
  ascending : (state.fired waiter).Pairwise (· < ·)
  passed : ∀ horizon ∈ state.fired waiter, horizon ≤ state.observer.nowMs
  ahead : ∀ wait, state.observer.waits waiter = .running wait →
    Ahead state.observer (state.fired waiter) wait

/-- A timer fires for a parked wait whose sleep has ended. -/
theorem wake_timer_parked {s t : Run.State} {waiter : ℕ}
    (taken : Run.step s (.wakeTimer waiter) = some t) :
    ∃ wait sleepUntil, s.waits waiter = .running wait ∧ wait.phase = .parked sleepUntil ∧
      sleepUntil ≤ s.instant ∧ t = s.setWait waiter (.running { wait with phase := .looping }) := by
  simp only [Run.step] at taken
  split at taken
  · next wait running =>
    split at taken
    · next sleepUntil phase =>
      obtain ⟨slept, same⟩ := Option.ite_none_right_eq_some.mp taken
      exact ⟨wait, sleepUntil, running, phase, slept, (Option.some.inj same).symm⟩
    · cases taken
  · cases taken

/-- A step that does not wake the waiter by its timer. -/
theorem Ascends.quiet {s : Alarmed} {observer : Run.State} {label : Label} {waiter : ℕ}
    (ascends : Ascends s waiter) (punctual : onTime s.observer label = true)
    (taken : Run.step s.observer label = some observer) :
    Ascends ⟨observer, s.fired⟩ waiter := by
  obtain ⟨later, clock⟩ := step_now taken
  refine ⟨ascends.ascending, fun horizon member => ?_, fun moved running => ?_⟩
  · exact Nat.le_trans (ascends.passed horizon member) (step_now_ms taken)
  · cases slot_step taken running with
    | kept same => exact (ascends.ahead moved same).later later clock
    | begun plan start idle =>
      subst start
      trivial
    | moved wait before timed own =>
      exact (ahead_timed punctual before ascends.passed (ascends.ahead wait before) timed own).later
        later clock

theorem Ascends.next {s t : Alarmed} {label : Label} {waiter : ℕ} (ascends : Ascends s waiter)
    (punctual : OnTime s label) (taken : step s label = some t) : Ascends t waiter := by
  obtain ⟨observer, moves, same⟩ := Option.map_eq_some_iff.mp taken
  subst same
  have silent : alarm s.observer label waiter = [] →
      Ascends ⟨observer, fun waiter => s.fired waiter ++ alarm s.observer label waiter⟩ waiter := by
    intro none'
    have still := ascends.quiet punctual moves
    refine ⟨?_, ?_, ?_⟩
    · simp only [none', List.append_nil]
      exact still.ascending
    · simp only [none', List.append_nil]
      exact still.passed
    · simp only [none', List.append_nil]
      exact still.ahead
  cases label with
  | wakeTimer woken =>
    by_cases own : woken = waiter
    · subst own
      obtain ⟨wait, sleepUntil, running, phase, slept, same⟩ := wake_timer_parked moves
      have fired : alarm s.observer (.wakeTimer woken) woken = [horizonOf wait] := by
        simp only [alarm, if_pos, running]
      have ahead := ascends.ahead wait running
      unfold Ahead at ahead
      simp only [phase] at ahead
      obtain ⟨reached, fewer⟩ := ahead
      have now : horizonOf wait ≤ s.observer.nowMs := reached _ (Nat.le_refl _) slept
      subst same
      refine ⟨?_, fun horizon member => ?_, fun moved after => ?_⟩
      · simp only [fired]
        rw [List.pairwise_append]
        refine ⟨ascends.ascending, List.pairwise_singleton _ _, fun horizon member last inside => ?_⟩
        rw [List.mem_singleton.mp inside]
        exact fewer horizon member
      · simp only [fired] at member
        rcases List.mem_append.mp member with old | new
        · exact ascends.passed horizon old
        · rw [List.mem_singleton.mp new]
          exact now
      · have looping : WaitTask.running { wait with phase := .looping } = .running moved := by
          rw [← after]
          exact (Function.update_self woken _ s.observer.waits).symm
        cases looping
        trivial
    · refine silent ?_
      simp only [alarm, if_neg own]
  | tick | handleEvent | resync | pumpSection | pumpBump | recordAction | actorStep | callWait
  | runWait | waitStep | wakeChanged | cancelWait => exact silent rfl

theorem ascends_of_reachable {s : Alarmed} (reached : Reachable alarmed OnTime s) (waiter : ℕ) :
    Ascends s waiter := by
  have start : Ascends alarmed.init waiter := by
    refine ⟨List.Pairwise.nil, fun horizon member => ?_, fun wait running => ?_⟩
    · cases member
    · cases running
  have invariant : Inductive alarmed OnTime fun s => Ascends s waiter :=
    ⟨start, fun ascends punctual taken => ascends.next punctual taken⟩
  exact invariant.holds reached

/-! ## Spinning -/

/-- A wait that is put to sleep too late is woken before its horizon. -/
theorem woken_early {s : Run.State} {waiter : ℕ} (anchor : s.clock.anchorTsMs ≤ u64Max)
    (late : onTime s (.waitStep waiter) = false) :
    ∃ t u nanos wait horizon, Run.step s (.waitStep waiter) = some t ∧
      Run.step t (.tick nanos) = some u ∧ s.waits waiter = .running wait ∧
      wait.phase = .scheduling horizon ∧ (Run.step u (.wakeTimer waiter)).isSome = true ∧
      u.nowMs < horizon := by
  unfold onTime at late
  simp only at late
  split at late
  · next wait running =>
    split at late
    · next horizon phase =>
      simp only [Bool.or_eq_false_iff, decide_eq_false_iff_not] at late
      obtain ⟨ahead, elapsed⟩ := late
      let sleepUntil := s.clock.deadline s.instant horizon
      let parked := s.setWait waiter (.running { wait with phase := .parked sleepUntil })
      let nanos := sleepUntil - s.instant
      refine ⟨parked, { parked with instant := parked.instant + nanos }, nanos, wait, horizon,
        ?_, rfl, running, phase, ?_, ?_⟩
      · simp only [Run.step, waitStep, running, advanceWait, phase]
        rfl
      · have slept : sleepUntil ≤ s.instant + (sleepUntil - s.instant) :=
          Nat.sub_le_iff_le_add'.mp (Nat.le_refl _)
        simp only [Run.step, parked, State.setWait, Function.update_self, nanos, if_pos slept]
        rfl
      · change s.clock.nowMs (s.instant + (sleepUntil - s.instant)) < horizon
        rcases Nat.le_total sleepUntil s.instant with past | future
        · rw [Nat.sub_eq_zero_of_le past, Nat.add_zero]
          exact Nat.not_le.mp ahead
        · rw [Nat.add_sub_cancel' future]
          change s.clock.nowMs (s.clock.deadline s.instant horizon) < horizon
          rw [now_ms_deadline]
          have before : s.clock.nowMs s.instant < horizon := Nat.not_le.mp ahead
          unfold Clock.nowMs saturatingAdd at before ⊢
          omega
    · cases late
  · cases late

/-- The deadline of a clock is late enough exactly within a millisecond of its anchor, or for what
lies at or before the anchor. In runs where no wait is put to sleep later than that for a horizon
ahead, every timer wakeup finds its horizon reached and no horizon wakes a waiter twice; a wait
that is put to sleep later can be woken before its horizon. -/
theorem timer_wakeups_reach_horizon (waiter : ℕ) :
    (∀ (clock : Clock) (now : Instant) (tsMs : ℕ), clock.anchorTsMs ≤ u64Max → tsMs ≤ u64Max →
      (ReachedByDeadline clock now tsMs ↔
        tsMs ≤ clock.anchorTsMs ∨ elapsedMs clock.anchorInstant now = 0)) ∧
    (∀ s : Alarmed, Reachable alarmed OnTime s →
      (s.fired waiter).Pairwise (· < ·) ∧
        ∀ wait sleepUntil, s.observer.waits waiter = .running wait →
          wait.phase = .parked sleepUntil → sleepUntil ≤ s.observer.instant →
          horizonOf wait ≤ s.observer.nowMs) ∧
    ∀ s : Run.State, s.clock.anchorTsMs ≤ u64Max →
      onTime s (.waitStep waiter) = false →
      ∃ t u nanos wait horizon, Run.step s (.waitStep waiter) = some t ∧
        Run.step t (.tick nanos) = some u ∧ s.waits waiter = .running wait ∧
        wait.phase = .scheduling horizon ∧ (Run.step u (.wakeTimer waiter)).isSome = true ∧
        u.nowMs < horizon := by
  refine ⟨fun clock now tsMs anchor range => reached_by_deadline_iff anchor range, ?_,
    fun s anchor late => woken_early anchor late⟩
  intro s reached
  have ascends := ascends_of_reachable reached waiter
  refine ⟨ascends.ascending, fun wait sleepUntil running phase slept => ?_⟩
  have ahead := ascends.ahead wait running
  unfold Ahead at ahead
  simp only [phase] at ahead
  exact ahead.1 _ (Nat.le_refl _) slept

/-- A wait for 100 ms of quiet, and the steps of one round of its loop up to its sleep. -/
def sleepingWait : List Label :=
  .callWait 0 (.waitForQuiet { quietMs := 100 }) :: List.replicate 9 (.waitStep 0)

def oneRound : List Label := .wakeTimer 0 :: List.replicate 5 (.waitStep 0)

/-- The wait starts with the clock, sleeps for its horizon and is woken once. -/
def punctualWait : Alarmed :=
  finalState alarmed OnTime (sleepingWait ++ [.tick 100000000] ++ oneRound) (by decide +kernel)

theorem timer_wakeups_reach_horizon_once :
    (punctualWait.fired 0).Pairwise (· < ·) ∧ punctualWait.fired 0 = [100] :=
  ⟨((timer_wakeups_reach_horizon 0).2.1 punctualWait (final_state_reachable _ _ _ _)).1,
    by decide +kernel⟩

/-- The wait starts 100 ms after the last event. -/
def spinningWait : Alarmed :=
  finalState alarmed anyStep ([.tick 100000000] ++ sleepingWait ++ oneRound ++ oneRound ++ oneRound)
    (by decide +kernel)

/-- Its timer fires three times for the horizon 200 while the clock stands at 100. -/
theorem spins_before_horizon :
    Reachable alarmed anyStep spinningWait ∧ spinningWait.fired 0 = [200, 200, 200] ∧
      spinningWait.observer.nowMs = 100 ∧
      ¬ ReachedByDeadline spinningWait.observer.clock spinningWait.observer.instant 200 := by
  refine ⟨final_state_reachable _ _ _ _, by decide +kernel, by decide +kernel, ?_⟩
  rw [reached_by_deadline_iff_now]
  decide +kernel

end ADesk.Observer.Horizons
