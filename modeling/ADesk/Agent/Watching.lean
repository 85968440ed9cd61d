/- ADesk/Agent/Watching
   digest: The watch mode of the agent loop: idle waits raced by the deadline of a step, jobs that
   wakeups start, and the two budgets that end it. -/

import ADesk.Agent.Context

set_option autoImplicit false

namespace ADesk.Agent.Watching

open ADesk.Agent.Context (RuntimeInfo)
open ADesk.Agent.Errors
open ADesk.Core.Event (EventKind RuntimeEvent)
open ADesk.Core.Ids (WindowId)

universe u

variable {Outcome : Type u}

/-! ## The loop -/

/-- What the runtime answers a call with, and after how many milliseconds. -/
structure Answer (α : Type u) where
  afterMs : ℕ
  result : Except Error α

/-- The deadline of one call; an answer at the deadline is still taken. -/
def boundedCall {α : Type u} (timeoutMs step : ℕ) (call : Answer α) : Except Error α :=
  if call.afterMs ≤ timeoutMs then call.result else .error (.stepTimeout step timeoutMs)

structure WaitForEventsRequest where
  kinds : Option (List EventKind)
  windowId : Option WindowId
  timeoutMs : ℕ
  maxEvents : ℕ
  sinceSeq : Option ℕ

structure WaitOutcome where
  events : List RuntimeEvent
  timedOut : Bool
  seq : ℕ

structure WatchConfig where
  wakeKinds : Option (List EventKind)
  waitTimeoutMs : ℕ
  maxEvents : ℕ
  maxWakeups : Option ℕ
  maxIdleWaits : Option ℕ
  sinceSeq : Option ℕ

def WatchConfig.default : WatchConfig where
  wakeKinds := some [.notification, .notificationAction]
  waitTimeoutMs := 30000
  maxEvents := 32
  maxWakeups := none
  maxIdleWaits := none
  sinceSeq := none

/-- Why the watch stopped; `fatal` is reserved for callers. -/
inductive WatchStopReason
  | wakeupBudget
  | idleBudget
  | fatal
  deriving DecidableEq

/-- One handled wakeup: the events that woke the agent and the outcome of the job. -/
structure Wakeup (Outcome : Type u) where
  events : List RuntimeEvent
  seq : ℕ
  outcome : Outcome

structure WatchOutcome (Outcome : Type u) where
  wakeups : List (Wakeup Outcome)
  idleWaits : ℕ
  stopReason : WatchStopReason

/-- What is fixed for one watch. `runBody` is the result of the standing job, by how many jobs ran
before it and the events that woke it. -/
structure Session (Outcome : Type u) where
  stepTimeoutMs : ℕ
  validateProtocolVersion : Bool
  ping : Answer RuntimeInfo
  runBody : ℕ → List RuntimeEvent → Except Error Outcome
  watch : WatchConfig

def protocolVersion : ℕ := 1

/-- What the loop knows between two waits. -/
structure WatchState (Outcome : Type u) where
  wakeups : List (Wakeup Outcome)
  idleWaits : ℕ
  filterSeq : Option ℕ

inductive Progress (Outcome : Type u)
  | watching (w : WatchState Outcome)
  | ended (result : Except Error (WatchOutcome Outcome))

namespace Session

variable (s : Session Outcome)

def validateRuntime : Except Error Unit :=
  if s.validateProtocolVersion then
    match boundedCall s.stepTimeoutMs 0 s.ping with
    | .ok info =>
      if info.protocolVersion = protocolVersion then .ok ()
      else .error (.protocolVersion protocolVersion info.protocolVersion)
    | .error error => .error error
  else .ok ()

/-- The wait that the loop asks for next. -/
def request (w : WatchState Outcome) : WaitForEventsRequest where
  kinds := s.watch.wakeKinds
  windowId := none
  timeoutMs := s.watch.waitTimeoutMs
  maxEvents := s.watch.maxEvents
  sinceSeq := w.filterSeq

/-- One wait of the loop with the answer to it. The two counts are of 32 bits in the source; each
reaches a budget of 32 bits before it would wrap. -/
def turn (w : WatchState Outcome) (answer : Answer WaitOutcome) : Progress Outcome :=
  match boundedCall s.stepTimeoutMs 0 answer with
  | .error error => .ended (.error error)
  | .ok wait =>
    if wait.timedOut then
      if s.watch.maxIdleWaits.any (· ≤ w.idleWaits + 1) then
        .ended (.ok ⟨w.wakeups, w.idleWaits + 1, .idleBudget⟩)
      else .watching ⟨w.wakeups, w.idleWaits + 1, some wait.seq⟩
    else
      match s.runBody w.wakeups.length wait.events with
      | .error error => .ended (.error error)
      | .ok outcome =>
        let wakeups := w.wakeups ++ [⟨wait.events, wait.seq, outcome⟩]
        if s.watch.maxWakeups.any (· ≤ wakeups.length) then
          .ended (.ok ⟨wakeups, 0, .wakeupBudget⟩)
        else .watching ⟨wakeups, 0, some wait.seq⟩

def feed : Progress Outcome → Answer WaitOutcome → Progress Outcome
  | .watching w, answer => s.turn w answer
  | .ended result, _ => .ended result

/-- The runtime is validated once, before the first wait. -/
def start : Progress Outcome :=
  match s.validateRuntime with
  | .error error => .ended (.error error)
  | .ok () => .watching ⟨[], 0, s.watch.sinceSeq⟩

/-- `run_watch`, as far as the given answers to its waits take it. -/
def runWatch (waits : List (Answer WaitOutcome)) : Progress Outcome := waits.foldl s.feed s.start

end Session

/-! ## What the waits come to -/

/-- The wait was answered, and it was idle. -/
def idle (answer : Answer WaitOutcome) : Bool :=
  match answer.result with
  | .ok wait => wait.timedOut
  | .error _ => false

/-- The wait was answered with events. -/
def woken (answer : Answer WaitOutcome) : Option WaitOutcome :=
  match answer.result with
  | .ok wait => if wait.timedOut then none else some wait
  | .error _ => none

def wakes (waits : List (Answer WaitOutcome)) : List WaitOutcome := waits.filterMap woken

/-- How many idle waits the waits end with. -/
def trailingIdle (waits : List (Answer WaitOutcome)) : ℕ := (waits.reverse.takeWhile idle).length

/-- The budget that the waits have used up. -/
def due (watch : WatchConfig) (waits : List (Answer WaitOutcome)) : Option WatchStopReason :=
  if watch.maxIdleWaits.any (· ≤ trailingIdle waits) then some .idleBudget
  else if watch.maxWakeups.any (· ≤ (wakes waits).length) then some .wakeupBudget
  else none

/-- The wakeups are those of the waits, in order, each with the outcome of its own job. -/
def Handled (s : Session Outcome) (wakes : List WaitOutcome) (wakeups : List (Wakeup Outcome)) :
    Prop :=
  wakeups.map (fun wakeup => (wakeup.events, wakeup.seq)) =
      wakes.map (fun wait => (wait.events, wait.seq)) ∧
    ∀ entry ∈ wakeups.zipIdx, s.runBody entry.2 entry.1.events = .ok entry.1.outcome

/-- Idle waits last as long as they were asked to. -/
def Conforming (watch : WatchConfig) (answer : Answer WaitOutcome) : Prop :=
  ∃ wait, answer.result = .ok wait ∧
    (wait.timedOut = true → watch.waitTimeoutMs ≤ answer.afterMs)

/-- No idle wait ends the watch with an error, a watch goes on exactly while no budget is used up,
and what it returns are the wakeups of the waits and the number of all idle ones. -/
structure WatchesWell (s : Session Outcome) (waits : List (Answer WaitOutcome)) : Prop where
  stands : ∀ done w, done <+: waits → s.runWatch done = .watching w → due s.watch done = none
  fails : ∀ done last w error, done ++ [last] <+: waits → s.runWatch done = .watching w →
    s.runWatch (done ++ [last]) = .ended (.error error) → idle last = false
  returns : ∀ done last w outcome, done ++ [last] <+: waits → s.runWatch done = .watching w →
    s.runWatch (done ++ [last]) = .ended (.ok outcome) →
      due s.watch (done ++ [last]) = some outcome.stopReason ∧
        Handled s (wakes (done ++ [last])) outcome.wakeups ∧
        outcome.idleWaits = (done ++ [last]).countP idle

/-! ## Waits that are got through -/

/-- The wait is answered in time, and its job succeeds where it starts one. -/
def Passed (s : Session Outcome) (done : List (Answer WaitOutcome)) (last : Answer WaitOutcome) :
    Prop :=
  last.afterMs ≤ s.stepTimeoutMs ∧ ∃ wait, last.result = .ok wait ∧
    (wait.timedOut = false → ∃ outcome, s.runBody (wakes done).length wait.events = .ok outcome)

/-- Waits that are all got through without using up a budget. -/
inductive Live (s : Session Outcome) : List (Answer WaitOutcome) → Prop
  | start (validated : s.validateRuntime = .ok ()) : Live s []
  | wait {done : List (Answer WaitOutcome)} {last : Answer WaitOutcome} (before : Live s done)
      (passed : Passed s done last) (goes : due s.watch (done ++ [last]) = none) :
      Live s (done ++ [last])

@[simp] theorem wakes_append (first second : List (Answer WaitOutcome)) :
    wakes (first ++ second) = wakes first ++ wakes second :=
  List.filterMap_append

theorem trailing_idle {last : Answer WaitOutcome} (timedOut : idle last = true)
    (done : List (Answer WaitOutcome)) : trailingIdle (done ++ [last]) = trailingIdle done + 1 := by
  unfold trailingIdle
  rw [List.reverse_append, List.reverse_singleton, List.singleton_append,
    List.takeWhile_cons_of_pos timedOut, List.length_cons]

theorem trailing_awake {last : Answer WaitOutcome} (awake : idle last = false)
    (done : List (Answer WaitOutcome)) : trailingIdle (done ++ [last]) = 0 := by
  unfold trailingIdle
  rw [List.reverse_append, List.reverse_singleton, List.singleton_append,
    List.takeWhile_cons_of_neg (by simp [awake]), List.length_nil]

namespace Session

variable {s : Session Outcome}

theorem run_snoc (s : Session Outcome) (done : List (Answer WaitOutcome))
    (last : Answer WaitOutcome) :
    s.runWatch (done ++ [last]) = s.feed (s.runWatch done) last := by
  unfold runWatch
  rw [List.foldl_append, List.foldl_cons, List.foldl_nil]

/-- What the loop does with an idle wait that is answered in time. -/
theorem turn_idle (w : WatchState Outcome) {answer : Answer WaitOutcome} {wait : WaitOutcome}
    (timely : answer.afterMs ≤ s.stepTimeoutMs) (answered : answer.result = .ok wait)
    (timedOut : wait.timedOut = true) :
    s.turn w answer =
      if s.watch.maxIdleWaits.any (· ≤ w.idleWaits + 1) then
        .ended (.ok ⟨w.wakeups, w.idleWaits + 1, .idleBudget⟩)
      else .watching ⟨w.wakeups, w.idleWaits + 1, some wait.seq⟩ := by
  unfold turn boundedCall
  rw [if_pos timely, answered]
  exact if_pos timedOut

/-- What the loop does with events that come in time, once their job has succeeded. -/
theorem turn_awake (w : WatchState Outcome) {answer : Answer WaitOutcome} {wait : WaitOutcome}
    {outcome : Outcome} (timely : answer.afterMs ≤ s.stepTimeoutMs)
    (answered : answer.result = .ok wait) (awake : wait.timedOut = false)
    (ran : s.runBody w.wakeups.length wait.events = .ok outcome) :
    s.turn w answer =
      if s.watch.maxWakeups.any (· ≤ w.wakeups.length + 1) then
        .ended (.ok ⟨w.wakeups ++ [⟨wait.events, wait.seq, outcome⟩], 0, .wakeupBudget⟩)
      else .watching ⟨w.wakeups ++ [⟨wait.events, wait.seq, outcome⟩], 0, some wait.seq⟩ := by
  unfold turn boundedCall
  rw [if_pos timely, answered]
  dsimp only
  rw [awake, if_neg Bool.false_ne_true, ran]
  dsimp only
  rw [List.length_append, List.length_singleton]

/-- A wait that is not got through ends the watch with an error. -/
theorem turn_error (w : WatchState Outcome) {answer : Answer WaitOutcome}
    {done : List (Answer WaitOutcome)} (count : w.wakeups.length = (wakes done).length)
    (blocked : ¬ Passed s done answer) : ∃ error, s.turn w answer = .ended (.error error) := by
  unfold turn boundedCall
  by_cases timely : answer.afterMs ≤ s.stepTimeoutMs
  · rw [if_pos timely]
    cases answered : answer.result with
    | error error => exact ⟨error, rfl⟩
    | ok wait =>
      dsimp only
      cases timedOut : wait.timedOut with
      | true =>
        refine absurd ⟨timely, wait, answered, fun awake => ?_⟩ blocked
        rw [timedOut] at awake
        cases awake
      | false =>
        rw [if_neg Bool.false_ne_true]
        cases ran : s.runBody w.wakeups.length wait.events with
        | error error => exact ⟨error, rfl⟩
        | ok outcome =>
          rw [count] at ran
          exact absurd ⟨timely, wait, answered, fun _ => ⟨outcome, ran⟩⟩ blocked
  · rw [if_neg timely]
    exact ⟨_, rfl⟩

end Session

theorem idle_of_answered {answer : Answer WaitOutcome} {wait : WaitOutcome}
    (answered : answer.result = .ok wait) : idle answer = wait.timedOut := by
  unfold idle
  rw [answered]

theorem wakes_idle {answer : Answer WaitOutcome} (timedOut : idle answer = true) :
    wakes [answer] = [] := by
  unfold idle at timedOut
  unfold wakes woken
  cases answered : answer.result with
  | error error => rw [answered] at timedOut; cases timedOut
  | ok wait =>
    rw [answered] at timedOut
    dsimp only at timedOut
    simp [answered, timedOut]

theorem wakes_awake {answer : Answer WaitOutcome} {wait : WaitOutcome}
    (answered : answer.result = .ok wait) (awake : wait.timedOut = false) :
    wakes [answer] = [wait] := by
  simp [wakes, woken, answered, awake]

theorem Handled.awake {s : Session Outcome} {done : List WaitOutcome}
    {wakeups : List (Wakeup Outcome)} (handled : Handled s done wakeups) {wait : WaitOutcome}
    {outcome : Outcome} (ran : s.runBody wakeups.length wait.events = .ok outcome) :
    Handled s (done ++ [wait]) (wakeups ++ [⟨wait.events, wait.seq, outcome⟩]) := by
  refine ⟨?_, fun entry member => ?_⟩
  · rw [List.map_append, List.map_append, handled.1]
    rfl
  · rw [List.zipIdx_append, List.mem_append] at member
    rcases member with old | new
    · exact handled.2 entry old
    · rw [List.zipIdx_singleton, List.mem_singleton, Nat.zero_add] at new
      rw [new]
      exact ran

theorem Handled.length {s : Session Outcome} {done : List WaitOutcome}
    {wakeups : List (Wakeup Outcome)} (handled : Handled s done wakeups) :
    wakeups.length = done.length := by
  simpa using congrArg List.length handled.1

theorem zero_spent (budget : Option ℕ) : budget.any (· ≤ 0) = true ↔ budget = some 0 := by
  cases budget <;> simp

theorem due_nil (watch : WatchConfig) :
    due watch [] = none ↔ watch.maxIdleWaits ≠ some 0 ∧ watch.maxWakeups ≠ some 0 := by
  unfold due
  rw [Ne, Ne, ← zero_spent, ← zero_spent]
  change (if watch.maxIdleWaits.any (· ≤ 0) then some WatchStopReason.idleBudget
    else if watch.maxWakeups.any (· ≤ 0) then some .wakeupBudget else none) = none ↔ _
  split
  · next spent => exact iff_of_false (Option.some_ne_none _) fun both => both.1 spent
  · next kept =>
    split
    · next spent => exact iff_of_false (Option.some_ne_none _) fun both => both.2 spent
    · next also => exact iff_of_true rfl ⟨kept, also⟩

/-- An idle wait uses up the idle budget or none. -/
theorem due_idle {watch : WatchConfig} {done : List (Answer WaitOutcome)}
    (goes : due watch done = none) {last : Answer WaitOutcome} (timedOut : idle last = true) :
    due watch (done ++ [last]) =
      if watch.maxIdleWaits.any (· ≤ trailingIdle done + 1) then some .idleBudget else none := by
  unfold due at goes ⊢
  rw [trailing_idle timedOut, wakes_append, wakes_idle timedOut, List.append_nil]
  split at goes
  · cases goes
  · split at goes
    · cases goes
    · next below => rw [if_neg below]

/-- Events use up the budget of wakeups or none. -/
theorem due_awake {watch : WatchConfig} {done : List (Answer WaitOutcome)}
    (goes : due watch done = none) {last : Answer WaitOutcome} {wait : WaitOutcome}
    (answered : last.result = .ok wait) (awake : wait.timedOut = false) :
    due watch (done ++ [last]) =
      if watch.maxWakeups.any (· ≤ (wakes done).length + 1) then some .wakeupBudget
      else none := by
  have still : ¬ watch.maxIdleWaits.any (· ≤ 0) = true := by
    unfold due at goes
    split at goes
    · cases goes
    · next below =>
      cases budget : watch.maxIdleWaits with
      | none => simp
      | some most =>
        simp only [budget, Option.any_some, decide_eq_true_eq] at below ⊢
        omega
  have last_awake : idle last = false := (idle_of_answered answered).trans awake
  unfold due
  rw [trailing_awake last_awake, if_neg still, wakes_append, wakes_awake answered awake,
    List.length_append, List.length_singleton]

/-- What the loop holds between two waits, in terms of the waits so far. -/
structure Holds (s : Session Outcome) (done : List (Answer WaitOutcome)) (w : WatchState Outcome) :
    Prop where
  handled : Handled s (wakes done) w.wakeups
  idleWaits : w.idleWaits = trailingIdle done
  goes : due s.watch done = none

/-- What the loop returns after the waits; its count of idle waits is that of the last ones. -/
structure Returned (s : Session Outcome) (done : List (Answer WaitOutcome))
    (outcome : WatchOutcome Outcome) : Prop where
  handled : Handled s (wakes done) outcome.wakeups
  idleWaits : outcome.idleWaits = trailingIdle done
  spent : due s.watch done = some outcome.stopReason

section Runs

variable {s : Session Outcome} {done : List (Answer WaitOutcome)} {last : Answer WaitOutcome}
  {w : WatchState Outcome}

/-- A wait that is got through ends the watch where a budget is used up, and else it goes on. -/
theorem Holds.turn (holds : Holds s done w) (passed : Passed s done last) :
    (∃ outcome, s.turn w last = .ended (.ok outcome) ∧ Returned s (done ++ [last]) outcome) ∨
      ∃ next, s.turn w last = .watching next ∧ Holds s (done ++ [last]) next := by
  obtain ⟨timely, wait, answered, job⟩ := passed
  cases timedOut : wait.timedOut with
  | true =>
    have idleLast : idle last = true := (idle_of_answered answered).trans timedOut
    have handled : Handled s (wakes (done ++ [last])) w.wakeups := by
      rw [wakes_append, wakes_idle idleLast, List.append_nil]
      exact holds.handled
    have count := trailing_idle idleLast done
    have budget := due_idle holds.goes idleLast
    rw [Session.turn_idle w timely answered timedOut, holds.idleWaits, ← count]
    rw [← count] at budget
    split
    · next reached =>
      rw [if_pos reached] at budget
      exact Or.inl ⟨_, rfl, handled, rfl, budget⟩
    · next below =>
      rw [if_neg below] at budget
      exact Or.inr ⟨_, rfl, handled, rfl, budget⟩
  | false =>
    obtain ⟨outcome, ran⟩ := job timedOut
    have awake : idle last = false := (idle_of_answered answered).trans timedOut
    have length := holds.handled.length
    rw [← length] at ran
    have handled := holds.handled.awake ran
    rw [← wakes_awake answered timedOut, ← wakes_append] at handled
    have count := trailing_awake awake done
    have budget := due_awake holds.goes answered timedOut
    rw [Session.turn_awake w timely answered timedOut ran]
    rw [← length] at budget
    split
    · next reached =>
      rw [if_pos reached] at budget
      exact Or.inl ⟨_, rfl, handled, count.symm, budget⟩
    · next below =>
      rw [if_neg below] at budget
      exact Or.inr ⟨_, rfl, handled, count.symm, budget⟩

/-- Before a wait that the watch still makes it was watching. -/
theorem watching_before {next : WatchState Outcome}
    (watching : s.runWatch (done ++ [last]) = .watching next) :
    ∃ w, s.runWatch done = .watching w ∧ s.turn w last = .watching next := by
  rw [Session.run_snoc] at watching
  cases before : s.runWatch done with
  | watching w =>
    rw [before] at watching
    exact ⟨w, rfl, watching⟩
  | ended result =>
    rw [before] at watching
    cases watching

/-- The next wait asks for what came after the watermark of the one before it. -/
theorem request_threaded {wait : WaitOutcome} (answered : last.result = .ok wait)
    (watching : s.runWatch (done ++ [last]) = .watching w) :
    (s.request w).sinceSeq = some wait.seq := by
  obtain ⟨before, _, turned⟩ := watching_before watching
  unfold Session.turn boundedCall at turned
  rw [answered] at turned
  split at turned
  · cases turned
  · next timely =>
    split at timely
    · cases timely
      split at turned
      · split at turned <;> cases turned
        rfl
      · split at turned
        · cases turned
        · dsimp only at turned
          split at turned <;> cases turned
          rfl
    · cases timely

/-- While the watch goes on, every wait was got through. -/
theorem run_watching (fresh : due s.watch [] = none) (watching : s.runWatch done = .watching w) :
    Holds s done w ∧ Live s done := by
  induction done using List.reverseRecOn generalizing w with
  | nil =>
    change s.start = .watching w at watching
    unfold Session.start at watching
    split at watching
    · cases watching
    · next validated =>
      cases watching
      exact ⟨⟨⟨rfl, fun entry member => by cases member⟩, rfl, fresh⟩, .start validated⟩
  | append_singleton done last ih =>
    obtain ⟨before, run, turned⟩ := watching_before watching
    obtain ⟨holds, live⟩ := ih run
    by_cases passed : Passed s done last
    · rcases holds.turn passed with ⟨outcome, ended, _⟩ | ⟨next, goes, held⟩
      · rw [ended] at turned
        cases turned
      · rw [goes] at turned
        cases turned
        exact ⟨held, live.wait passed held.goes⟩
    · obtain ⟨error, failed⟩ := Session.turn_error before holds.handled.length passed
      rw [failed] at turned
      cases turned

/-- Waits that are all got through leave the watch going. -/
theorem live_watching (fresh : due s.watch [] = none) (live : Live s done) :
    ∃ w, s.runWatch done = .watching w := by
  induction live with
  | start validated =>
    refine ⟨⟨[], 0, s.watch.sinceSeq⟩, ?_⟩
    change s.start = _
    unfold Session.start
    rw [validated]
  | wait before passed goes ih =>
    obtain ⟨w, watching⟩ := ih
    obtain ⟨holds, _⟩ := run_watching fresh watching
    rw [Session.run_snoc, watching]
    rcases holds.turn passed with ⟨outcome, _, returned⟩ | ⟨next, turned, _⟩
    · have spent := returned.spent
      rw [goes] at spent
      cases spent
    · exact ⟨next, turned⟩

end Runs

/-! ## When the watch does what it says -/

/-- No budget is zero, every idle wait that the watch reaches is answered before the deadline of a
step, and where a budget is used up no idle wait came before a waking one. -/
structure Sound (s : Session Outcome) (waits : List (Answer WaitOutcome)) : Prop where
  idleBudget : s.watch.maxIdleWaits ≠ some 0
  wakeupBudget : s.watch.maxWakeups ≠ some 0
  prompt : ∀ done last, done ++ [last] <+: waits → Live s done → idle last = true →
    last.afterMs ≤ s.stepTimeoutMs
  unbroken : ∀ done last, done ++ [last] <+: waits → Live s done → Passed s done last →
    due s.watch (done ++ [last]) ≠ none →
      (done ++ [last]).countP idle = trailingIdle (done ++ [last])

theorem passed_idle {s : Session Outcome} {last : Answer WaitOutcome}
    (done : List (Answer WaitOutcome)) (timedOut : idle last = true)
    (timely : last.afterMs ≤ s.stepTimeoutMs) : Passed s done last := by
  unfold idle at timedOut
  cases answered : last.result with
  | error error =>
    rw [answered] at timedOut
    cases timedOut
  | ok wait =>
    rw [answered] at timedOut
    refine ⟨timely, wait, answered, fun awake => ?_⟩
    exact absurd (timedOut.symm.trans awake) Bool.noConfusion

theorem Sound.watches_well {s : Session Outcome} {waits : List (Answer WaitOutcome)}
    (sound : Sound s waits) : WatchesWell s waits := by
  have fresh : due s.watch [] = none := (due_nil s.watch).mpr ⟨sound.idleBudget, sound.wakeupBudget⟩
  refine ⟨fun done w _ watching => (run_watching fresh watching).1.goes, ?_, ?_⟩
  · intro done last w error inside watching failed
    obtain ⟨holds, live⟩ := run_watching fresh watching
    cases timedOut : idle last with
    | false => rfl
    | true =>
      have passed := passed_idle done timedOut (sound.prompt done last inside live timedOut)
      rw [Session.run_snoc, watching] at failed
      change s.turn w last = _ at failed
      rcases holds.turn passed with ⟨outcome, ended, _⟩ | ⟨next, goes, _⟩
      · rw [ended] at failed
        cases failed
      · rw [goes] at failed
        cases failed
  · intro done last w outcome inside watching ended
    obtain ⟨holds, live⟩ := run_watching fresh watching
    rw [Session.run_snoc, watching] at ended
    change s.turn w last = _ at ended
    by_cases passed : Passed s done last
    · rcases holds.turn passed with ⟨other, same, returned⟩ | ⟨next, goes, _⟩
      · rw [same] at ended
        cases ended
        have spent : due s.watch (done ++ [last]) ≠ none := by
          rw [returned.spent]
          exact Option.some_ne_none _
        refine ⟨returned.spent, returned.handled, ?_⟩
        rw [returned.idleWaits, sound.unbroken done last inside live passed spent]
      · rw [goes] at ended
        cases ended
    · obtain ⟨error, failed⟩ := Session.turn_error w holds.handled.length passed
      rw [failed] at ended
      cases ended

theorem WatchesWell.sound {s : Session Outcome} {waits : List (Answer WaitOutcome)}
    (well : WatchesWell s waits) (validated : s.validateRuntime = .ok ()) : Sound s waits := by
  have started : s.runWatch [] = .watching ⟨[], 0, s.watch.sinceSeq⟩ := by
    change s.start = _
    unfold Session.start
    rw [validated]
  have fresh : due s.watch [] = none := well.stands [] _ List.nil_prefix started
  obtain ⟨idleBudget, wakeupBudget⟩ := (due_nil s.watch).mp fresh
  refine ⟨idleBudget, wakeupBudget, ?_, ?_⟩
  · intro done last inside live timedOut
    obtain ⟨w, watching⟩ := live_watching fresh live
    obtain ⟨holds, _⟩ := run_watching fresh watching
    by_contra late
    have blocked : ¬ Passed s done last := fun passed => late passed.1
    obtain ⟨error, failed⟩ := Session.turn_error w holds.handled.length blocked
    have awake := well.fails done last w error inside watching (by
      rw [Session.run_snoc, watching]
      exact failed)
    rw [timedOut] at awake
    cases awake
  · intro done last inside live passed spent
    obtain ⟨w, watching⟩ := live_watching fresh live
    obtain ⟨holds, _⟩ := run_watching fresh watching
    rcases holds.turn passed with ⟨outcome, ended, returned⟩ | ⟨next, _, held⟩
    · obtain ⟨_, _, total⟩ := well.returns done last w outcome inside watching (by
        rw [Session.run_snoc, watching]
        exact ended)
      rw [← total, returned.idleWaits]
    · exact absurd held.goes spent

/-- Of a validated watch the promises hold exactly when the idle waits are answered in time, come
after all wakeups where the watch returns, and no budget is zero. -/
theorem watches_well_iff (s : Session Outcome) (waits : List (Answer WaitOutcome)) :
    WatchesWell s waits ↔ (s.validateRuntime = .ok () → Sound s waits) := by
  constructor
  · exact fun well validated => well.sound validated
  · intro sound
    cases validated : s.validateRuntime with
    | ok _ => exact (sound validated).watches_well
    | error error =>
      -- The run is over before its first wait.
      have finished : ∀ done, s.runWatch done = .ended (.error error) := by
        intro done
        induction done using List.reverseRecOn with
        | nil =>
          change s.start = _
          unfold Session.start
          rw [validated]
        | append_singleton done last ih =>
          rw [Session.run_snoc, ih]
          rfl
      refine ⟨?_, ?_, ?_⟩
      · intro done w _ watching
        rw [finished] at watching
        cases watching
      · intro done last w _ _ watching
        rw [finished] at watching
        cases watching
      · intro done last w _ _ watching
        rw [finished] at watching
        cases watching

/-- The default watch of a loop with the default deadline, whose runtime answers an idle wait one
millisecond after its horizon. -/
def defaultSession : Session String where
  stepTimeoutMs := 30000
  validateProtocolVersion := false
  ping := ⟨0, .error (.transport "no answer")⟩
  runBody _ _ := .ok "handled"
  watch := .default

theorem default_watch_fails :
    ¬ ∀ (s : Session String) (waits : List (Answer WaitOutcome)),
      (∀ answer ∈ waits, Conforming s.watch answer) → WatchesWell s waits := by
  intro all
  have conforming : ∀ answer ∈ [Answer.mk 30001 (.ok ⟨[], true, 0⟩)],
      Conforming defaultSession.watch answer := by
    intro answer member
    rw [List.mem_singleton.mp member]
    exact ⟨⟨[], true, 0⟩, rfl, fun _ => by decide⟩
  have awake := (all defaultSession _ conforming).fails [] _ _ _ (List.prefix_refl _) rfl rfl
  cases awake

end ADesk.Agent.Watching
