/- ADesk/Observer/Steps
   digest: What one step of the observer machine can do, said once for all invariants. -/

import ADesk.Observer.Run
import ADesk.Observer.Sections

set_option autoImplicit false

namespace ADesk.Observer.Steps

open ADesk.Core.Ids (WindowId ActionId)
open ADesk.Core.Event (RuntimeEvent Position Observation)
open ADesk.Core.Time (Instant)
open ADesk.Foundation.KeyedLog (newer)
open ADesk.Foundation.WatchChannel
open ADesk.Observer.Actions
open ADesk.Observer.ClockDomain (Clock)
open ADesk.Observer.Journal
open ADesk.Observer.Service
open ADesk.Observer.Spec
open ADesk.Observer.State
open ADesk.Observer.Waiter
open ADesk.Observer.Sections
open ADesk.Observer.Run

/-- Steps of the pump, of action recorders and of time; no waiter moves. -/
inductive EnvStep (s : Run.State) : Label → Run.State → Prop
  | ticked (nanos : ℕ) : EnvStep s (.tick nanos) { s with instant := s.instant + nanos }
  | handleBegan (event : RuntimeEvent) (clock : Clock) (idle : s.pump = .idle) :
      EnvStep s (.handleEvent event) { s with clock := clock, pump := .handling event }
  | resyncBegan (snapshot : StateSnapshot) (clock : Clock) (idle : s.pump = .idle) :
      EnvStep s (.resync snapshot) { s with clock := clock, pump := .resyncing snapshot }
  | handled (event : RuntimeEvent) (pumping : s.pump = .handling event) :
      EnvStep s .pumpSection
        { s with
          service := handleEventSection s.service event
          pump := .bumping
          sections := s.sections ++
            [⟨s.service.watermark, .handled event,
              (CountedEvent.fromRuntimeEvent event).toList⟩]
          windowLog := s.windowLog ++ [.handled event] }
  | stale (snapshot : StateSnapshot) (pumping : s.pump = .resyncing snapshot)
      (old : staleSnapshot s.service snapshot) : EnvStep s .pumpSection { s with pump := .idle }
  | synced (snapshot : StateSnapshot) (pumping : s.pump = .resyncing snapshot)
      (fresh : ¬ staleSnapshot s.service snapshot) :
      EnvStep s .pumpSection
        { s with
          service := (resyncSection s.service snapshot).1
          pump := .bumping
          sections := s.sections ++
            [⟨s.service.watermark, .synced snapshot, syntheticEvents s.service snapshot⟩]
          epoch := s.sections.length
          windowLog := s.windowLog ++ [.synced snapshot] }
  | bumped (pumping : s.pump = .bumping) :
      EnvStep s .pumpBump { s with events := bumpGeneration s.events, pump := .idle }
  | stamped (actor : ℕ) (kind : ActionKind) (windowId : Option WindowId)
      (position : Option Position) (idle : s.actors actor = .idle) :
      EnvStep s (.recordAction actor kind windowId position)
        { s with
          actors := Function.update s.actors actor (.stamped kind windowId position s.nowMs) }
  | marked (actor : ℕ) (kind : ActionKind) (windowId : Option WindowId)
      (position : Option Position) (nowMs : ℕ)
      (acting : s.actors actor = .stamped kind windowId position nowMs) :
      EnvStep s (.actorStep actor)
        { s with
          actors := Function.update s.actors actor
            (.marked kind windowId position nowMs s.service.watermark) }
  | recorded (actor : ℕ) (kind : ActionKind) (windowId : Option WindowId)
      (position : Option Position) (nowMs watermark : ℕ) (next : ActorPhase)
      (acting : s.actors actor = .marked kind windowId position nowMs watermark)
      (after : (∃ touched, windowId = some touched ∧
          next = .touching kind touched nowMs ⟨s.actions.lastId + 1⟩) ∨
        (windowId = none ∧ next = .recorded ⟨s.actions.lastId + 1⟩)) :
      EnvStep s (.actorStep actor)
        { s with
          actions := (s.actions.record kind windowId position watermark nowMs).1
          actors := Function.update s.actors actor next }
  | touched (actor : ℕ) (kind : ActionKind) (windowId : WindowId) (nowMs : ℕ)
      (actionId : ActionId) (acting : s.actors actor = .touching kind windowId nowMs actionId) :
      EnvStep s (.actorStep actor)
        { s with
          service := touchSection s.service kind windowId nowMs
          actors := Function.update s.actors actor (.recorded actionId)
          windowLog := s.windowLog ++ [.touched windowId] }

/-- How the task of one waiter changes. -/
inductive WaitMove (s : Run.State) (label : Label) : WaitTask → WaitTask → Prop
  | called (request : WaitRequest) : WaitMove s label .idle (.calling request s.nowMs)
  | planned (request : WaitRequest) (startedAt : ℕ) (plan : WaitPlan)
      (ok : planRequest s.actions s.service.watermark request startedAt = .ok plan) :
      WaitMove s label (.calling request startedAt) (.running (Wait.start plan))
  | refused (request : WaitRequest) (startedAt : ℕ) (error : WaitError) :
      WaitMove s label (.calling request startedAt) (.refused error)
  | begun (waiter : ℕ) (plan : WaitPlan) (direct : label = .runWait waiter plan) :
      WaitMove s label .idle (.running (Wait.start plan))
  | walked (wait : Wait) (phase : WaitPhase)
      (settled : phase.settled = true → wait.phase.settled = true)
      (unresolved : phase.observation = none) :
      WaitMove s label (.running wait) (.running { wait with phase := phase })
  | subscribed (wait : Wait) :
      WaitMove s label (.running wait)
        (.running { wait with receiver := s.events.subscribe, phase := .registering })
  | absorbed (wait : Wait) (generation now : ℕ)
      (absorbing : wait.phase = .absorbing generation now) :
      WaitMove s label (.running wait) (.running (absorbStep s wait generation now))
  | woken (wait : Wait) :
      WaitMove s label (.running wait)
        (.running { wait with receiver := s.events.markSeen, phase := .looping })
  | resolved (wait : Wait) (timedOut : Bool) (nowMs : ℕ)
      (settled : wait.phase.settled = true) :
      WaitMove s label (.running wait)
        (.running { wait with
          phase := .releasing (resolveSection s.service wait.plan wait.accumulator nowMs timedOut) })
  | released (wait : Wait) (observation : Observation)
      (resolved : wait.phase = .releasing observation) :
      WaitMove s label (.running wait) (.running { wait with phase := .done observation })

/-- A step of one waiter: its task moves and at most the registered waiters change. -/
structure WaitStep (s t : Run.State) (label : Label) (waiter : ℕ) (task : WaitTask) : Prop where
  shared : ∃ service, PendingOnly s.service service ∧
    t = { s with service := service }.setWait waiter task
  moved : WaitMove s label (s.waits waiter) task

private theorem actor_step_cases {s t : Run.State} {actor : ℕ}
    (taken : actorStep s actor = some t) : EnvStep s (.actorStep actor) t := by
  unfold actorStep at taken
  cases acting : s.actors actor with
  | idle => simp [acting] at taken
  | recorded actionId => simp [acting] at taken
  | stamped kind windowId position nowMs =>
    simp only [acting, Option.some.injEq] at taken
    subst taken
    exact .marked actor kind windowId position nowMs acting
  | marked kind windowId position nowMs watermark =>
    simp only [acting, Option.some.injEq] at taken
    subst taken
    cases windowId with
    | none => exact .recorded actor kind none position nowMs watermark _ acting (.inr ⟨rfl, rfl⟩)
    | some touched =>
      exact .recorded actor kind (some touched) position nowMs watermark _ acting
        (.inl ⟨touched, rfl, rfl⟩)
  | touching kind windowId nowMs actionId =>
    simp only [acting, Option.some.injEq] at taken
    subst taken
    exact .touched actor kind windowId nowMs actionId acting

private theorem pump_section_cases {s t : Run.State} (taken : pumpSection s = some t) :
    EnvStep s .pumpSection t := by
  unfold pumpSection at taken
  cases pumping : s.pump with
  | idle => simp [pumping] at taken
  | bumping => simp [pumping] at taken
  | handling event =>
    simp only [pumping, Option.some.injEq] at taken
    subst taken
    exact .handled event pumping
  | resyncing snapshot =>
    simp only [pumping] at taken
    split at taken
    · next old =>
      cases taken
      exact .stale snapshot pumping old
    · next fresh =>
      cases taken
      exact .synced snapshot pumping fresh

private theorem decide_wait_walks (s : Run.State) (plan : WaitPlan) (generation now anchor : ℕ)
    (met : Bool) : (decideWait s plan generation now anchor met).observation = none := by
  unfold decideWait
  split
  · split <;> rfl
  · split <;> rfl

private theorem advance_wait_cases {s : Run.State} {label : Label} {wait moved : Wait}
    {service : ServiceState} (taken : advanceWait s wait = some (service, moved)) :
    PendingOnly s.service service ∧ WaitMove s label (.running wait) (.running moved) := by
  have same := PendingOnly.refl s.service
  unfold advanceWait at taken
  cases phase : wait.phase with
  | checking =>
    simp only [phase] at taken
    cases window : wait.plan.windowId with
    | none =>
      simp only [window] at taken
      cases taken
      exact ⟨same, .walked wait _ (fun settled => by cases settled) rfl⟩
    | some windowId =>
      simp only [window] at taken
      split at taken <;> cases taken
      · exact ⟨same, .walked wait _ (fun settled => by cases settled) rfl⟩
      · exact ⟨same, .walked wait _ (fun settled => by cases settled) rfl⟩
  | subscribing =>
    simp only [phase] at taken
    cases taken
    exact ⟨same, .subscribed wait⟩
  | registering =>
    simp only [phase] at taken
    cases taken
    exact ⟨register_pending_only _ _ _, .walked wait _ (fun settled => by cases settled) rfl⟩
  | looping =>
    simp only [phase] at taken
    cases taken
    exact ⟨same, .walked wait _ (fun settled => by cases settled) rfl⟩
  | reading generation =>
    simp only [phase] at taken
    cases taken
    exact ⟨same, .walked wait _ (fun settled => by cases settled) rfl⟩
  | absorbing generation now =>
    simp only [phase] at taken
    cases taken
    exact ⟨same, .absorbed wait generation now phase⟩
  | deciding generation now anchor met =>
    simp only [phase] at taken
    cases taken
    exact ⟨same, .walked wait _ (fun _ => by rw [phase]; rfl) (decide_wait_walks ..)⟩
  | scheduling horizon =>
    simp only [phase] at taken
    cases taken
    exact ⟨same, .walked wait _ (fun _ => by rw [phase]; rfl) rfl⟩
  | stamping timedOut =>
    simp only [phase] at taken
    cases taken
    exact ⟨same, .walked wait _ (fun _ => by rw [phase]; rfl) rfl⟩
  | resolving timedOut nowMs =>
    simp only [phase] at taken
    cases taken
    exact ⟨same, .resolved wait timedOut nowMs (by rw [phase]; rfl)⟩
  | releasing observation =>
    simp only [phase] at taken
    cases taken
    exact ⟨drop_pending_only _ _ _, .released wait observation phase⟩
  | parked _ => simp [phase] at taken
  | done _ => simp [phase] at taken
  | failed _ => simp [phase] at taken
  | cancelled => simp [phase] at taken

private theorem wait_step_cases {s t : Run.State} {waiter : ℕ}
    (taken : waitStep s waiter = some t) : ∃ task, WaitStep s t (.waitStep waiter) waiter task := by
  unfold waitStep at taken
  cases task : s.waits waiter with
  | idle => simp [task] at taken
  | refused _ => simp [task] at taken
  | calling request startedAt =>
    simp only [task, Option.some.injEq] at taken
    cases planned : planRequest s.actions s.service.watermark request startedAt with
    | ok plan =>
      refine ⟨.running (Wait.start plan), ⟨s.service, PendingOnly.refl _, ?_⟩, ?_⟩
      · rw [← taken, planned]
      · rw [task]
        exact .planned request startedAt plan planned
    | error error =>
      refine ⟨.refused error, ⟨s.service, PendingOnly.refl _, ?_⟩, ?_⟩
      · rw [← taken, planned]
      · rw [task]
        exact .refused request startedAt error
  | running wait =>
    simp only [task] at taken
    cases advanced : advanceWait s wait with
    | none => simp [advanced] at taken
    | some result =>
      obtain ⟨service, moved⟩ := result
      simp only [advanced, Option.some.injEq] at taken
      obtain ⟨pending, move⟩ := advance_wait_cases advanced
      exact ⟨.running moved, ⟨service, pending, taken.symm⟩, task ▸ move⟩

/-- The labels that move a waiter; the others move the environment. -/
def byWaiter : Label → Bool
  | .callWait .. | .runWait .. | .waitStep _ | .wakeChanged _ | .wakeTimer _ | .cancelWait _ =>
    true
  | .tick _ | .handleEvent _ | .resync _ | .pumpSection | .pumpBump | .recordAction ..
  | .actorStep _ => false

theorem env_step_cases {s t : Run.State} {label : Label} (environment : byWaiter label = false)
    (taken : step s label = some t) : EnvStep s label t := by
  cases label with
  | tick nanos =>
    cases taken
    exact .ticked nanos
  | handleEvent event =>
    simp only [step] at taken
    split at taken
    · next idle =>
      cases taken
      exact .handleBegan event _ idle
    · cases taken
  | resync snapshot =>
    simp only [step] at taken
    split at taken
    · next idle =>
      cases taken
      exact .resyncBegan snapshot _ idle
    · cases taken
  | pumpSection => exact pump_section_cases taken
  | pumpBump =>
    simp only [step] at taken
    split at taken
    · next pumping =>
      cases taken
      exact .bumped pumping
    · cases taken
  | recordAction actor kind windowId position =>
    simp only [step] at taken
    split at taken
    · next idle =>
      cases taken
      exact .stamped actor kind windowId position idle
    · cases taken
  | actorStep actor => exact actor_step_cases taken
  | callWait | runWait | waitStep | wakeChanged | wakeTimer | cancelWait => cases environment

theorem waiter_step_cases {s t : Run.State} {label : Label} (moving : byWaiter label = true)
    (taken : step s label = some t) : ∃ waiter task, WaitStep s t label waiter task := by
  cases label with
  | tick | handleEvent | resync | pumpSection | pumpBump | recordAction | actorStep => cases moving
  | callWait waiter request =>
    simp only [step] at taken
    split at taken
    · next idle =>
      cases taken
      exact ⟨waiter, _, ⟨s.service, PendingOnly.refl _, rfl⟩, idle ▸ .called request⟩
    · cases taken
  | runWait waiter plan =>
    simp only [step] at taken
    split at taken
    · next idle =>
      cases taken
      exact ⟨waiter, _, ⟨s.service, PendingOnly.refl _, rfl⟩, idle ▸ .begun waiter plan rfl⟩
    · cases taken
  | waitStep waiter =>
    obtain ⟨task, move⟩ := wait_step_cases taken
    exact ⟨waiter, task, move⟩
  | wakeChanged waiter =>
    simp only [step] at taken
    split at taken
    · next wait task =>
      split at taken
      · split at taken <;> cases taken
        exact ⟨waiter, _, ⟨s.service, PendingOnly.refl _, rfl⟩, task ▸ .woken wait⟩
      · cases taken
    · cases taken
  | wakeTimer waiter =>
    simp only [step] at taken
    split at taken
    · next wait task =>
      split at taken
      · split at taken <;> cases taken
        exact ⟨waiter, _, ⟨s.service, PendingOnly.refl _, rfl⟩,
          task ▸ .walked wait _ (fun settled => by cases settled) rfl⟩
      · cases taken
    · cases taken
  | cancelWait waiter =>
    simp only [step] at taken
    split at taken
    · next wait task =>
      split at taken
      · next sleepUntil phase =>
        cases taken
        exact ⟨waiter, _, ⟨_, drop_pending_only _ _ _, rfl⟩,
          task ▸ .walked wait _ (fun _ => by rw [phase]; rfl) rfl⟩
      · cases taken
    · cases taken

/-- Every step moves the environment and no waiter, or exactly one waiter. -/
theorem step_cases {s t : Run.State} {label : Label} (taken : step s label = some t) :
    EnvStep s label t ∨ ∃ waiter task, WaitStep s t label waiter task := by
  cases moving : byWaiter label with
  | false => exact .inl (env_step_cases moving taken)
  | true => exact .inr (waiter_step_cases moving taken)

def runningWait (s : Run.State) (waiter : ℕ) : Option Wait :=
  match s.waits waiter with
  | .running wait => some wait
  | _ => none

theorem running_wait_running {s : Run.State} {waiter : ℕ} {wait : Wait}
    (found : runningWait s waiter = some wait) : s.waits waiter = .running wait := by
  unfold runningWait at found
  split at found
  · next running task =>
    cases found
    exact task
  · cases found

/-- The wait that is about to run its absorb section. -/
def absorbingWait (s : Run.State) (waiter : ℕ) : Option Wait :=
  match s.waits waiter with
  | .running wait =>
    match wait.phase with
    | .absorbing .. => some wait
    | _ => none
  | _ => none

theorem absorbing_wait_running {s : Run.State} {waiter : ℕ} {wait : Wait}
    (absorbing : absorbingWait s waiter = some wait) :
    s.waits waiter = .running wait ∧ ∃ generation now, wait.phase = .absorbing generation now := by
  unfold absorbingWait at absorbing
  split at absorbing
  · next running task =>
    split at absorbing
    · next generation now phase =>
      cases absorbing
      exact ⟨task, generation, now, phase⟩
    · cases absorbing
  · cases absorbing

theorem absorbing_step {s : Run.State} {waiter : ℕ} {wait : Wait}
    (absorbing : absorbingWait s waiter = some wait) :
    ∃ generation now, step s (.waitStep waiter) =
      some (s.setWait waiter (.running (absorbStep s wait generation now))) := by
  obtain ⟨running, generation, now, phase⟩ := absorbing_wait_running absorbing
  refine ⟨generation, now, ?_⟩
  simp only [step, waitStep, running, advanceWait, phase]

end ADesk.Observer.Steps
