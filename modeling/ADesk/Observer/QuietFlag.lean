/- ADesk/Observer/QuietFlag
   digest: The `quiet` flag of a quiet wait against the way the wait ended. -/

import ADesk.Observer.Timing

set_option autoImplicit false

namespace ADesk.Observer.QuietFlag

open ADesk.Core.Event (Observation RuntimeEvent)
open ADesk.Core.Geometry (Region)
open ADesk.Foundation.Execution
open ADesk.Observer.Run
open ADesk.Observer.Service
open ADesk.Observer.Spec
open ADesk.Observer.Timing
open ADesk.Observer.Waiter

/-! ## The two measures of quiet -/

/-- At this reading a quiet wait counts its scope as quiet: the time since the last counted commit,
or since the anchor when there is none, reaches the threshold. -/
def Rests (wait : Wait) (nowMs : ℕ) : Prop :=
  ∀ quietMs, wait.plan.condition = .quiet quietMs →
    quietMs ≤ nowMs - wait.accumulator.quietAnchor wait.plan.anchorTs

/-- At this reading the last counted commit is younger than the threshold. -/
def Moves (wait : Wait) (nowMs : ℕ) : Prop :=
  ∀ quietMs, wait.plan.condition = .quiet quietMs →
    nowMs - wait.accumulator.quietAnchor wait.plan.anchorTs < quietMs

theorem Rests.later {wait : Wait} {now later : ℕ} (rests : Rests wait now) (order : now ≤ later) :
    Rests wait later := by
  intro quietMs condition
  have before := rests quietMs condition
  omega

/-- The condition measures from the later of anchor and last commit, the flag from one of them. -/
theorem quiet_anchor_le (acc : Accumulator) (anchorTs : ℕ) :
    acc.quietAnchor anchorTs ≤ max anchorTs (acc.lastCommitTs.getD 0) := by
  unfold Accumulator.quietAnchor
  cases acc.lastCommitTs with
  | none => exact Nat.le_max_left _ _
  | some tsMs => exact Nat.le_max_right _ _

theorem rests_of_met {wait : Wait} {now : ℕ}
    (met : conditionMet wait.plan.condition wait.accumulator wait.plan.anchorTs now = true) :
    Rests wait now := by
  intro quietMs condition
  rw [condition] at met
  have reached := of_decide_eq_true met
  have anchor := quiet_anchor_le wait.accumulator wait.plan.anchorTs
  omega

theorem resolved_quiet_iff {wait : Wait} {quietMs : ℕ} (condition : wait.plan.condition = .quiet quietMs)
    (service : ServiceState) (nowMs : ℕ) (timedOut : Bool) :
    (resolveSection service wait.plan wait.accumulator nowMs timedOut).quiet = true ↔
      quietMs ≤ nowMs - wait.accumulator.quietAnchor wait.plan.anchorTs := by
  have threshold : wait.plan.condition.quietThresholdMs = quietMs := by
    rw [condition]
    rfl
  unfold resolveSection Accumulator.resolve
  rw [threshold]
  exact decide_eq_true_iff

/-! ## Waits that resolve on their condition -/

/-- What a wait knows of the clock readings behind it, while it has not timed out. -/
def Rested (s : Run.State) (wait : Wait) : Prop :=
  match wait.phase with
  | .absorbing _ now => now ≤ s.nowMs
  | .deciding _ now _ met =>
    now ≤ s.nowMs ∧
      met = conditionMet wait.plan.condition wait.accumulator wait.plan.anchorTs now
  | .stamping timedOut => timedOut = false → Rests wait s.nowMs
  | .resolving timedOut nowMs => timedOut = false → Rests wait nowMs
  | .releasing observation | .done observation =>
    observation.timedOut = false → ∀ quietMs, wait.plan.condition = .quiet quietMs →
      observation.quiet = true
  | .checking | .subscribing | .registering | .looping | .reading _ | .scheduling _ | .parked _
  | .failed _ | .cancelled => True

theorem rested_timeless {s : Run.State} {wait : Wait}
    (timeless : WaitPhase.timeless wait.phase = true) : Rested s wait := by
  unfold Rested
  cases phase : wait.phase <;> first | trivial | (rw [phase] at timeless; cases timeless)

theorem Rested.later {s t : Run.State} {wait : Wait} (rested : Rested s wait)
    (order : s.nowMs ≤ t.nowMs) : Rested t wait := by
  unfold Rested at rested ⊢
  cases phase : wait.phase with
  | absorbing generation now =>
    simp only [phase] at rested ⊢
    exact Nat.le_trans rested order
  | deciding generation now anchor met =>
    simp only [phase] at rested ⊢
    exact ⟨Nat.le_trans rested.1 order, rested.2⟩
  | stamping timedOut =>
    simp only [phase] at rested ⊢
    exact fun kept => (rested kept).later order
  | resolving | releasing | done =>
    simp only [phase] at rested ⊢
    exact rested
  | checking | subscribing | registering | looping | reading | scheduling | parked | failed
  | cancelled => trivial

theorem rested_decided {s : Run.State} {wait : Wait} {generation now anchor : ℕ} {met : Bool}
    (order : now ≤ s.nowMs)
    (evaluated : met = conditionMet wait.plan.condition wait.accumulator wait.plan.anchorTs now) :
    Rested s { wait with phase := decideWait s wait.plan generation now anchor met } := by
  unfold decideWait
  split
  · next holds =>
    split
    · trivial
    · intro _
      exact Rests.later (rests_of_met (evaluated.symm.trans holds)) order
  · split
    · intro kept quietMs condition
      rw [show wait.plan.condition = .quiet quietMs from condition] at kept
      cases kept
    · trivial

theorem rested_timed {s : Run.State} {wait moved : Wait} (rested : Rested s wait)
    (timed : Timed s wait moved) : Rested s moved := by
  cases timed with
  | timeless _ _ idle => exact rested_timeless idle
  | read generation phase => exact Nat.le_refl _
  | absorbed generation now phase =>
    unfold Rested at rested
    simp only [phase] at rested
    exact ⟨rested, rfl⟩
  | decided generation now anchor met phase =>
    unfold Rested at rested
    simp only [phase] at rested
    exact rested_decided rested.1 rested.2
  | scheduled horizon phase => trivial
  | stamped timedOut phase =>
    unfold Rested at rested
    simp only [phase] at rested
    exact rested
  | resolved timedOut nowMs phase =>
    unfold Rested at rested
    simp only [phase] at rested
    intro kept quietMs condition
    exact (resolved_quiet_iff condition s.service nowMs timedOut).mpr (rested kept quietMs condition)
  | released observation phase =>
    unfold Rested at rested
    simp only [phase] at rested
    exact rested

/-- A state predicate on the waits of all slots, kept by the steps of waits and as time passes. -/
theorem waits_of_reachable {allowed : Run.State → Label → Prop} {P : Run.State → Wait → Prop}
    (fresh : ∀ s plan, P s (Wait.start plan))
    (later : ∀ {s t wait}, P s wait → s.nowMs ≤ t.nowMs → P t wait)
    (timed : ∀ {s label waiter wait moved}, allowed s label → s.waits waiter = .running wait →
      P s wait → Timed s wait moved →
      (label = .waitStep waiter ∨ WaitPhase.timeless moved.phase = true) → P s moved)
    {s : Run.State} (reached : Reachable machine allowed s) :
    ∀ waiter wait, s.waits waiter = .running wait → P s wait := by
  have invariant : Inductive machine allowed fun s =>
      ∀ waiter wait, s.waits waiter = .running wait → P s wait := by
    refine ⟨fun waiter wait running => ?_, fun {s t label} holds ok taken waiter moved running => ?_⟩
    · cases running
    · have order := step_now_ms taken
      cases slot_step taken running with
      | kept same => exact later (holds waiter moved same) order
      | begun plan start idle => exact start ▸ fresh t plan
      | moved wait before step own =>
        exact later (timed ok before (holds waiter wait before) step own) order
  exact invariant.holds reached

theorem rested_of_reachable {allowed : Run.State → Label → Prop} {s : Run.State}
    (reached : Reachable machine allowed s) {waiter : ℕ} {wait : Wait}
    (running : s.waits waiter = .running wait) : Rested s wait :=
  waits_of_reachable (P := Rested) (fun _ _ => trivial) Rested.later
    (fun _ _ rested step _ => rested_timed rested step) reached waiter wait running

/-! ## Waits that time out -/

/-- A wait that gave up reads the clock once more; at that reading its last counted commit, or its
anchor when it counted none, is still younger than the threshold. -/
def stillMoving (s : Run.State) : Label → Bool
  | .waitStep waiter =>
    match s.waits waiter with
    | .running wait =>
      match wait.phase, wait.plan.condition with
      | .stamping true, .quiet quietMs =>
        decide (s.nowMs - wait.accumulator.quietAnchor wait.plan.anchorTs < quietMs)
      | _, _ => true
    | _ => true
  | _ => true

def StillMoving (s : Run.State) (label : Label) : Prop := stillMoving s label = true

instance (s : Run.State) (label : Label) : Decidable (StillMoving s label) :=
  inferInstanceAs (Decidable (_ = true))

theorem still_moving_stamp {s : Run.State} {waiter : ℕ} {wait : Wait}
    (running : s.waits waiter = .running wait) (phase : wait.phase = .stamping true)
    (moving : StillMoving s (.waitStep waiter)) : Moves wait s.nowMs := by
  intro quietMs condition
  unfold StillMoving stillMoving at moving
  simp only [running, phase, condition] at moving
  exact of_decide_eq_true moving

/-- What a wait that timed out knows of its last clock reading. -/
def Moved (_ : Run.State) (wait : Wait) : Prop :=
  match wait.phase with
  | .resolving timedOut nowMs => timedOut = true → Moves wait nowMs
  | .releasing observation | .done observation =>
    observation.timedOut = true → ∀ quietMs, wait.plan.condition = .quiet quietMs →
      observation.quiet = false
  | _ => True

theorem moved_timeless {s : Run.State} {wait : Wait}
    (timeless : WaitPhase.timeless wait.phase = true) : Moved s wait := by
  unfold Moved
  cases phase : wait.phase <;> first | trivial | (rw [phase] at timeless; cases timeless)

theorem moved_decided {s : Run.State} {wait : Wait} {generation now anchor : ℕ} {met : Bool} :
    Moved s { wait with phase := decideWait s wait.plan generation now anchor met } := by
  unfold decideWait
  split
  · split <;> trivial
  · split <;> trivial

theorem moved_timed {s : Run.State} {label : Label} {waiter : ℕ} {wait moved : Wait}
    (moving : StillMoving s label) (running : s.waits waiter = .running wait)
    (known : Moved s wait) (timed : Timed s wait moved)
    (own : label = .waitStep waiter ∨ WaitPhase.timeless moved.phase = true) : Moved s moved := by
  cases timed with
  | timeless _ _ idle => exact moved_timeless idle
  | read | absorbed | scheduled => trivial
  | decided => exact moved_decided
  | stamped timedOut phase =>
    intro expired
    subst expired
    rcases own with own | idle
    · subst own
      have young : Moves wait s.nowMs := still_moving_stamp running phase moving
      exact young
    · cases idle
  | resolved timedOut nowMs phase =>
    unfold Moved at known
    simp only [phase] at known
    intro expired quietMs condition
    have young := known expired quietMs condition
    rw [Bool.eq_false_iff]
    intro flagged
    have old := (resolved_quiet_iff condition s.service nowMs timedOut).mp flagged
    exact absurd young (Nat.not_lt.mpr old)
  | released observation phase =>
    unfold Moved at known
    simp only [phase] at known
    exact known

theorem moved_of_reachable {s : Run.State} (reached : Reachable machine StillMoving s) {waiter : ℕ}
    {wait : Wait} (running : s.waits waiter = .running wait) : Moved s wait :=
  waits_of_reachable (P := Moved) (fun _ _ => trivial) (fun moved _ => moved) moved_timed
    reached waiter wait running

/-! ## The flag -/

theorem resolved_phase {wait : Wait} {observation : Observation}
    (resolved : wait.phase.observation = some observation) :
    wait.phase = .releasing observation ∨ wait.phase = .done observation := by
  unfold WaitPhase.observation at resolved
  split at resolved
  · next found phase =>
    cases resolved
    exact Or.inl phase
  · next found phase =>
    cases resolved
    exact Or.inr phase
  · cases resolved

/-- A wait for 100 ms of quiet within 10 ms, and a commit stamped `tsMs` that is handled while it
waits; the clock stands at 1010 ms when the wait gives up. -/
def commitWhileWaiting (tsMs : ℕ) : List Label :=
  [.tick 1000000000, .callWait 0 (.waitForQuiet { quietMs := 100, timeoutMs := 10 })] ++
    List.replicate 4 (.waitStep 0) ++
    [.handleEvent (.surfaceCommit 1 tsMs ⟨1⟩ 1 Region.empty), .pumpSection, .pumpBump,
      .tick 10000000] ++ List.replicate 6 (.waitStep 0)

def resolvedObservation (s : Run.State) (waiter : ℕ) : Option (Wait × Observation) :=
  match s.waits waiter with
  | .running wait => wait.phase.observation.map fun observation => (wait, observation)
  | _ => none

theorem resolved_observation_running {s : Run.State} {waiter : ℕ} {found : Wait × Observation}
    (resolved : resolvedObservation s waiter = some found) :
    s.waits waiter = .running found.1 ∧ found.1.phase.observation = some found.2 := by
  unfold resolvedObservation at resolved
  split at resolved
  · next wait running =>
    obtain ⟨observation, phase, same⟩ := Option.map_eq_some_iff.mp resolved
    subst same
    exact ⟨running, phase⟩
  · cases resolved

/-- The commit is 5 ms old at the end. -/
def youngCommit : Run.State :=
  finalState machine StillMoving (commitWhileWaiting 1005) (by decide +kernel)

private theorem young_resolved : (resolvedObservation youngCommit 0).isSome = true := by
  decide +kernel

/-- The commit was made 120 ms before the wait and handled late. -/
def oldCommit : Run.State :=
  finalState machine anyStep (commitWhileWaiting 880) (by decide +kernel)

end ADesk.Observer.QuietFlag
