/- ADesk/ViewerGui/Window
   digest: What a viewer's window shows agrees with what is under way: one launch and one listing at
   a time, each answered by its own reply, and the buttons of the task bar. -/

import ADesk.ViewerGui.Bridge

set_option autoImplicit false

namespace ADesk.ViewerGui.Window

open ADesk.Core.Ids (WindowId)
open ADesk.Foundation.Execution
open ADesk.Viewer.Calls (Outcome)
open ADesk.ViewerGui.Bridge
open ADesk.ViewerGui.Widgets

/-! ## Requests that a widget waits for -/

/-- A kind of request of the launcher: its calls, its answers and what the launcher waits for. -/
structure Tag (α : Type) where
  ofCall : Await → Option α
  ofEvent : UiEvent → Option α
  owed : AppLauncher → List α

variable {α : Type}

namespace Tag

def ofJob (tag : Tag α) (job : RequestJob) : Option α := tag.ofCall (.job job)

def ofCommand (tag : Tag α) (command : InputCommand) : Option α := command.job.bind tag.ofJob

def ofRequester (tag : Tag α) : Requester → Option α
  | .calling call _ => tag.ofCall call
  | .idle | .aborted => none

def answers (tag : Tag α) (s : State) : List α := s.events.filterMap tag.ofEvent

/-- The requests on their way to the runtime and back, the oldest first. -/
def underWay (tag : Tag α) (s : State) : List α :=
  tag.answers s ++ ((tag.ofRequester s.requester).toList ++
    (s.jobs.filterMap tag.ofJob ++ s.input.filterMap tag.ofCommand))

end Tag

/-- The launches, by application. -/
def launchTag : Tag String where
  ofCall
    | .job (.launch appId) => some appId
    | _ => none
  ofEvent
    | .launch appId _ => some appId
    | _ => none
  owed launcher := launcher.pending.toList

/-- The listings of the registry. -/
def listTag : Tag Unit where
  ofCall
    | .job .apps => some ()
    | _ => none
  ofEvent
    | .apps _ => some ()
    | _ => none
  owed launcher := if launcher.fetching then [()] else []

/-- What an event does to the launcher. -/
def heard (launcher : AppLauncher) : UiEvent → AppLauncher
  | .apps result => launcher.applyList result
  | .launch _ result => launcher.applyLaunch result
  | _ => launcher

theorem launcher_apply (s : State) (event : UiEvent) :
    (apply s event).widgets.launcher = heard s.widgets.launcher event := by
  cases event with
  | recording result => cases result <;> rfl
  | windowClosed windowId result => cases result <;> rfl
  | _ => rfl

/-! ### What a completion emits -/

theorem events_begin (s : State) (call : Await) : (s.begin call).events = s.events := by
  unfold State.begin
  split <;> rfl

theorem events_refresh_state (s : State) (outcome : Outcome) (contents : Contents) :
    (refreshState s outcome contents).events =
      s.events ++ if succeeded outcome then [.state contents.state] else [] := by
  unfold refreshState
  split
  · rfl
  · exact (List.append_nil _).symm

theorem events_refresh_recording (s : State) (outcome : Outcome) (contents : Contents) :
    (refreshRecording s outcome contents).events =
      s.events ++ if succeeded outcome then [.recording (.ok contents.recording)] else [] := by
  unfold refreshRecording
  split
  · rfl
  · exact (List.append_nil _).symm

/-- The event that the outcome of a call gives. -/
def answerOf (call : Await) (outcome : Outcome) (contents : Contents) : List UiEvent :=
  match call with
  | .job .state | .job .tick | .launchState =>
    if succeeded outcome then [.state contents.state] else []
  | .job .frame =>
    if succeeded outcome then [if contents.decodes then .frame contents.active else .notice] else []
  | .job .recording | .tickRecording =>
    if succeeded outcome then [.recording (.ok contents.recording)] else []
  | .job .apps => [.apps (result outcome contents contents.apps)]
  | .job (.launch appId) => [.launch appId (result outcome contents contents.launched)]
  | .job (.startRecording _) | .job .stopRecording =>
    [.recording (result outcome contents contents.recording)]

theorem events_complete (s : State) (call : Await) (outcome : Outcome) (contents : Contents) :
    (s.complete call outcome contents).events = s.events ++ answerOf call outcome contents := by
  unfold State.complete answerOf
  cases call with
  | tickRecording => exact events_refresh_recording _ _ _
  | launchState => exact events_refresh_state _ _ _
  | job job =>
    cases job with
    | state => exact events_refresh_state _ _ _
    | tick =>
      dsimp only
      split
      · rw [events_begin, events_refresh_state]
      · exact events_refresh_state _ _ _
    | frame =>
      dsimp only
      split
      · rfl
      · exact (List.append_nil _).symm
    | recording => exact events_refresh_recording _ _ _
    | apps => rfl
    | launch appId =>
      dsimp only
      split
      · rw [events_begin]
        rfl
      · rfl
    | startRecording request => rfl
    | stopRecording => rfl

theorem requester_begin (s : State) (call : Await) : ∃ index, (s.begin call).requester =
    .calling call index := by
  unfold State.begin
  split
  · exact ⟨_, rfl⟩
  · exact ⟨_, rfl⟩

/-- After a call the requester rests or follows it up. -/
theorem requester_complete (s : State) (call : Await) (outcome : Outcome) (contents : Contents) :
    (s.complete call outcome contents).requester = .idle ∨
      ∃ index, (s.complete call outcome contents).requester = .calling .tickRecording index ∨
        (s.complete call outcome contents).requester = .calling .launchState index := by
  unfold State.complete
  cases call with
  | tickRecording => exact .inl rfl
  | launchState => exact .inl rfl
  | job job =>
    cases job with
    | tick =>
      dsimp only
      split
      · obtain ⟨index, calling⟩ := requester_begin (refreshState s outcome contents) .tickRecording
        exact .inr ⟨index, .inl calling⟩
      · exact .inl rfl
    | launch appId =>
      dsimp only
      split
      · obtain ⟨index, calling⟩ := requester_begin
          (s.emit (.launch appId (result outcome contents contents.launched))) .launchState
        exact .inr ⟨index, .inr calling⟩
      · exact .inl rfl
    | _ => exact .inl rfl

/-- The widgets and the states that they were given. -/
def State.window (s : State) : Widgets × List DesktopState := (s.widgets, s.states)

theorem window_begin (s : State) (call : Await) : State.window (s.begin call) = State.window s := by
  unfold State.begin
  split <;> rfl

theorem window_complete (s : State) (call : Await) (outcome : Outcome) (contents : Contents) :
    State.window (s.complete call outcome contents) = State.window s := by
  have state : State.window (refreshState s outcome contents) = State.window s := by
    unfold refreshState
    split <;> rfl
  have recording : State.window (refreshRecording s outcome contents) = State.window s := by
    unfold refreshRecording
    split <;> rfl
  unfold State.complete
  cases call with
  | tickRecording => exact recording
  | launchState => exact state
  | job job =>
    cases job with
    | state => exact state
    | tick =>
      dsimp only
      split
      · exact (window_begin _ _).trans state
      · exact state
    | frame =>
      dsimp only
      split <;> rfl
    | recording => exact recording
    | apps => rfl
    | launch appId =>
      dsimp only
      split
      · exact window_begin _ _
      · rfl
    | startRecording request => rfl
    | stopRecording => rfl

theorem launcher_of_window {s t : State} (same : State.window t = State.window s) :
    t.widgets.launcher = s.widgets.launcher := by
  have widgets : t.widgets = s.widgets := congrArg Prod.fst same
  rw [widgets]

/-! ### The two kinds -/

/-- What the proofs use of a kind: its requests come from the launcher only, and a call gives one
answer, which ends the wait. -/
structure Tag.Lawful (tag : Tag α) : Prop where
  own : ∀ job, job.asked = false → tag.ofJob job = none
  record : ∀ request, tag.ofJob (.startRecording request) = none ∧ tag.ofJob .stopRecording = none
  follow : tag.ofCall .tickRecording = none ∧ tag.ofCall .launchState = none
  silent : ∀ event, (∀ result, event ≠ .apps result) → (∀ appId result, event ≠ .launch appId result) →
    tag.ofEvent event = none
  answer : ∀ call outcome contents,
    (answerOf call outcome contents).filterMap tag.ofEvent = (tag.ofCall call).toList
  fetch : ∀ launcher, launcher.shouldFetch = true →
    tag.owed launcher.beginFetch = tag.owed launcher ++ (tag.ofJob .apps).toList
  launch : ∀ launcher appId after, launcher.beginLaunch appId = some after →
    tag.owed after = tag.owed launcher ++ (tag.ofJob (.launch appId)).toList
  single : ∀ launcher, (tag.owed launcher).length ≤ 1
  hears : ∀ launcher event, tag.owed launcher ≠ [] → tag.ofEvent event ≠ none →
    tag.owed (heard launcher event) = []
  ignores : ∀ launcher event, tag.ofEvent event = none →
    tag.owed (heard launcher event) = tag.owed launcher

theorem launching_pending {launcher : AppLauncher} :
    launcher.isLaunching = true ↔ launcher.pending ≠ none := by
  unfold AppLauncher.isLaunching AppLauncher.pending
  cases launcher.launch <;> simp

theorem launch_lawful : launchTag.Lawful where
  own job none := by cases job <;> first | rfl | cases none
  record _ := ⟨rfl, rfl⟩
  follow := ⟨rfl, rfl⟩
  silent event _ launches := by
    cases event with
    | launch appId result => exact absurd rfl (launches appId result)
    | _ => rfl
  answer call outcome contents := by
    unfold answerOf
    generalize succeeded outcome = good
    generalize contents.decodes = decodes
    cases call with
    | job job => cases job <;> cases good <;> cases decodes <;> rfl
    | tickRecording => cases good <;> rfl
    | launchState => cases good <;> rfl
  fetch _ _ := (List.append_nil _).symm
  launch launcher appId after begun := by
    unfold AppLauncher.beginLaunch at begun
    split at begun
    · cases begun
    · next idle =>
      cases begun
      rw [launching_pending, not_not] at idle
      change [appId] = launcher.pending.toList ++ [appId]
      rw [idle]
      rfl
  single launcher := Option.length_toList_le
  hears launcher event waits answered := by
    cases event with
    | launch appId result =>
      change (AppLauncher.pending (launcher.applyLaunch result)).toList = []
      change launcher.pending.toList ≠ [] at waits
      unfold AppLauncher.pending at waits
      unfold AppLauncher.applyLaunch AppLauncher.pending
      cases found : launcher.launch with
      | launching name other =>
        cases result <;> rfl
      | _ =>
        rw [found] at waits
        exact absurd rfl waits
    | _ => exact absurd rfl answered
  ignores launcher event other := by
    cases event with
    | launch appId result => cases other
    | apps result => cases result <;> rfl
    | _ => rfl

theorem list_lawful : listTag.Lawful where
  own job none := by cases job <;> first | rfl | cases none
  record _ := ⟨rfl, rfl⟩
  follow := ⟨rfl, rfl⟩
  silent event lists _ := by
    cases event with
    | apps result => exact absurd rfl (lists result)
    | _ => rfl
  answer call outcome contents := by
    unfold answerOf
    generalize succeeded outcome = good
    generalize contents.decodes = decodes
    cases call with
    | job job => cases job <;> cases good <;> cases decodes <;> rfl
    | tickRecording => cases good <;> rfl
    | launchState => cases good <;> rfl
  fetch launcher wanted := by
    have idle : launcher.fetching = false := by simpa [AppLauncher.shouldFetch] using wanted
    simp [listTag, Tag.ofJob, AppLauncher.beginFetch, idle]
  launch launcher appId after begun := by
    unfold AppLauncher.beginLaunch at begun
    split at begun
    · cases begun
    · cases begun
      exact (List.append_nil _).symm
  single launcher := by
    unfold listTag
    dsimp only
    split <;> simp
  hears launcher event _ answered := by
    cases event with
    | apps result => cases result <;> rfl
    | _ => exact absurd rfl answered
  ignores launcher event other := by
    cases event with
    | apps result => cases other
    | launch appId result =>
      change (if (launcher.applyLaunch result).fetching then [()] else []) = _
      unfold AppLauncher.applyLaunch
      cases launcher.launch <;> rfl
    | _ => rfl

/-! ## What the launcher waits for is under way -/

/-- What the launcher waits for is under way while the session runs; afterwards what is still
answered is what it waits for. -/
structure Owed (tag : Tag α) (s : State) : Prop where
  running : s.loop ≠ .ended → tag.underWay s = tag.owed s.widgets.launcher
  ends : s.loop = .ended →
    s.requester = .aborted ∧ tag.answers s <+: tag.owed s.widgets.launcher

section

variable {tag : Tag α} {s t : State}

theorem Owed.moved (owed : Owed tag s) (before : s.loop ≠ .ended) (after : t.loop ≠ .ended)
    (launcher : t.widgets.launcher = s.widgets.launcher) (same : tag.underWay t = tag.underWay s) :
    Owed tag t where
  running _ := by rw [same, launcher, owed.running before]
  ends ended := absurd ended after

theorem Owed.stopped (owed : Owed tag s) (before : s.loop ≠ .ended)
    (requester : t.requester = .aborted) (ended : t.loop = .ended)
    (launcher : t.widgets.launcher = s.widgets.launcher) (answers : tag.answers t = tag.answers s) :
    Owed tag t where
  running running := absurd ended running
  ends _ := by
    refine ⟨requester, ?_⟩
    rw [answers, launcher, ← owed.running before]
    exact List.prefix_append _ _

/-- What is answered is what the launcher waits for, in whatever phase. -/
theorem Owed.answered (owed : Owed tag s) : tag.answers s <+: tag.owed s.widgets.launcher := by
  by_cases ended : s.loop = .ended
  · exact (owed.ends ended).2
  · rw [← owed.running ended]
    exact List.prefix_append _ _

/-- A step that moves nothing of the kind, in whatever phase. -/
theorem Owed.still (owed : Owed tag s) (loop : t.loop = s.loop)
    (requester : t.requester = s.requester) (events : t.events = s.events)
    (jobs : t.jobs = s.jobs) (input : t.input = s.input)
    (launcher : t.widgets.launcher = s.widgets.launcher) : Owed tag t where
  running running := by
    unfold Tag.underWay Tag.answers
    rw [events, requester, jobs, input, launcher]
    exact owed.running (loop ▸ running)
  ends ended := by
    unfold Tag.answers
    rw [events, requester, launcher]
    exact owed.ends (loop ▸ ended)

/-- A command is sent, of the kind or not. -/
theorem Owed.sent (owed : Owed tag s) (handle : s.handle = true) {command : InputCommand}
    (loop : t.loop = s.loop) (requester : t.requester = s.requester) (events : t.events = s.events)
    (jobs : t.jobs = s.jobs) (input : t.input = s.input) (held : t.handle = s.handle)
    (launcher : tag.owed t.widgets.launcher =
      tag.owed s.widgets.launcher ++ (tag.ofCommand command).toList) :
    Owed tag (t.send command) := by
  have sent : t.send command = { t with
      input := t.input ++ [command], submitted := t.submitted ++ [command] } := by
    unfold State.send
    rw [if_pos (held.trans handle)]
  rw [sent]
  constructor
  · intro running
    change tag.underWay _ = tag.owed t.widgets.launcher
    rw [launcher, ← owed.running (loop ▸ running)]
    unfold Tag.underWay Tag.answers
    dsimp only
    rw [events, requester, jobs, input, List.filterMap_append]
    have last : [command].filterMap tag.ofCommand = (tag.ofCommand command).toList := by
      cases found : tag.ofCommand command with
      | none => rw [List.filterMap_cons_none found]; rfl
      | some a => rw [List.filterMap_cons_some found]; rfl
    rw [last]
    simp only [List.append_assoc]
  · intro ended
    unfold Tag.answers
    dsimp only
    rw [events, requester, launcher]
    have ends := owed.ends (loop ▸ ended)
    exact ⟨ends.1, ends.2.trans (List.prefix_append _ _)⟩

end

theorem seat_untagged {tag : Tag α} {command : InputCommand} (seat : command.job = none) :
    tag.ofCommand command = none := by
  unfold Tag.ofCommand
  rw [seat]
  rfl

theorem owed_perform {tag : Tag α} {s t : State} {gesture : Gesture} (lawful : tag.Lawful)
    (owed : Owed tag s) (handle : s.handle = true) (taken : perform s gesture = some t) :
    Owed tag t := by
  cases gesture with
  | openPopover =>
    simp only [perform] at taken
    split at taken
    · next wanted =>
      cases taken
      exact owed.sent handle rfl rfl rfl rfl rfl rfl (lawful.fetch _ wanted)
    · cases taken
      exact owed
  | clickRow appId =>
    simp only [perform] at taken
    split at taken
    · next launcher begun =>
      cases taken
      exact owed.sent handle rfl rfl rfl rfl rfl rfl (lawful.launch _ _ _ begun)
    · cases taken
      exact owed
  | clickSwitch index =>
    obtain ⟨clicked, _, rfl⟩ := Option.map_eq_some_iff.mp taken
    refine owed.sent handle rfl rfl rfl rfl rfl rfl ?_
    rw [seat_untagged rfl]
    exact (List.append_nil _).symm
  | clickClose index =>
    obtain ⟨clicked, _, rfl⟩ := Option.map_eq_some_iff.mp taken
    split
    · refine owed.sent handle rfl rfl rfl rfl rfl rfl ?_
      rw [seat_untagged rfl]
      exact (List.append_nil _).symm
    · exact owed
  | clickRecord =>
    cases taken
    refine owed.sent handle rfl rfl rfl rfl rfl rfl ?_
    have none : tag.ofCommand (if s.widgets.record.isRecording then .stopRecording
        else .startRecording RecordRequest.new) = none := by
      split
      · exact (lawful.record RecordRequest.new).2
      · exact (lawful.record RecordRequest.new).1
    rw [none]
    exact (List.append_nil _).symm
  | seat command =>
    have untagged : tag.ofCommand command = none := by
      cases command <;> first | exact seat_untagged rfl | cases taken
    have sent : t = s.send command := by cases command <;> cases taken <;> rfl
    rw [sent]
    refine owed.sent handle rfl rfl rfl rfl rfl rfl ?_
    rw [untagged]
    exact (List.append_nil _).symm
  | closeRequest =>
    cases taken
    exact owed.still rfl rfl rfl rfl rfl rfl

/-- The parts of the worker that an event does not touch. -/
theorem apply_worker (s : State) (event : UiEvent) :
    (apply s event).loop = s.loop ∧ (apply s event).requester = s.requester ∧
      (apply s event).events = s.events ∧ (apply s event).jobs = s.jobs ∧
      (apply s event).input = s.input := by
  cases event with
  | recording result => cases result <;> exact ⟨rfl, rfl, rfl, rfl, rfl⟩
  | windowClosed windowId result => cases result <;> exact ⟨rfl, rfl, rfl, rfl, rfl⟩
  | _ => exact ⟨rfl, rfl, rfl, rfl, rfl⟩

/-- An answer is the one that the launcher waits for, and ends the wait. -/
theorem owed_apply {tag : Tag α} {s : State} {event : UiEvent} {rest : List UiEvent}
    (lawful : tag.Lawful) (owed : Owed tag s) (pending : s.events = event :: rest) :
    Owed tag (apply { s with events := rest } event) := by
  obtain ⟨loop, requester, events, jobs, input⟩ := apply_worker { s with events := rest } event
  have launcher := launcher_apply { s with events := rest } event
  cases answer : tag.ofEvent event with
  | none =>
    have answers : tag.answers s = rest.filterMap tag.ofEvent := by
      unfold Tag.answers
      rw [pending, List.filterMap_cons_none answer]
    have kept : tag.owed (apply { s with events := rest } event).widgets.launcher =
        tag.owed s.widgets.launcher := by
      rw [launcher]
      exact lawful.ignores _ _ answer
    constructor
    · intro running
      rw [kept, ← owed.running (loop ▸ running)]
      unfold Tag.underWay
      rw [answers]
      unfold Tag.answers
      rw [requester, events, jobs, input]
    · intro ended
      have ends := owed.ends (loop ▸ ended)
      rw [answers] at ends
      unfold Tag.answers
      rw [requester, events, kept]
      exact ends
  | some a =>
    have answers : tag.answers s = a :: rest.filterMap tag.ofEvent := by
      unfold Tag.answers
      rw [pending, List.filterMap_cons_some answer]
    -- The launcher waits for this answer alone.
    have single := lawful.single s.widgets.launcher
    have length := owed.answered.length_le
    rw [answers, List.length_cons] at length
    have none : rest.filterMap tag.ofEvent = [] := List.length_eq_zero_iff.mp (by omega)
    have waits : tag.owed s.widgets.launcher ≠ [] := by
      intro nothing
      rw [nothing, List.length_nil] at length
      omega
    have answered : tag.ofEvent event ≠ Option.none := by
      rw [answer]
      nofun
    have done : tag.owed (apply { s with events := rest } event).widgets.launcher = [] := by
      rw [launcher]
      exact lawful.hears _ _ waits answered
    constructor
    · intro running
      have all := owed.running (loop ▸ running)
      have lengths := congrArg List.length all
      unfold Tag.underWay at lengths
      rw [answers, List.length_append, List.length_cons] at lengths
      have nothing : (tag.ofRequester s.requester).toList ++
          (s.jobs.filterMap tag.ofJob ++ s.input.filterMap tag.ofCommand) = [] :=
        List.length_eq_zero_iff.mp (by omega)
      rw [done]
      unfold Tag.underWay Tag.answers
      rw [requester, events, jobs, input, none]
      exact nothing
    · intro ended
      unfold Tag.answers
      rw [requester, events, none]
      exact ⟨(owed.ends (loop ▸ ended)).1, List.nil_prefix⟩

theorem loop_begin (s : State) (call : Await) :
    (s.begin call).loop = s.loop ∧ (s.begin call).jobs = s.jobs ∧ (s.begin call).input = s.input := by
  unfold State.begin
  split <;> exact ⟨rfl, rfl, rfl⟩

theorem loop_complete (s : State) (call : Await) (outcome : Outcome) (contents : Contents) :
    (s.complete call outcome contents).loop = s.loop ∧
      (s.complete call outcome contents).jobs = s.jobs ∧
      (s.complete call outcome contents).input = s.input := by
  have ledger := ledger_complete s call outcome contents
  unfold State.ledger at ledger
  injection ledger with input loop jobs
  exact ⟨loop, jobs, input⟩

/-- What `apply_seat` leaves alone. -/
theorem apply_seat_worker (s : State) (command : InputCommand) (message : ClientMessage)
    (succeeds : Bool) (error : String) :
    (s.applySeat command message succeeds error).loop = .selecting ∧
      (s.applySeat command message succeeds error).requester = s.requester ∧
      (s.applySeat command message succeeds error).jobs = s.jobs ∧
      (s.applySeat command message succeeds error).input = s.input ∧
      (s.applySeat command message succeeds error).widgets = s.widgets ∧
      ∃ fresh, (s.applySeat command message succeeds error).events = s.events ++ fresh ∧
        ∀ event ∈ fresh, event = .notice ∨ ∃ id result, event = .windowClosed id result := by
  unfold State.applySeat
  cases command <;> cases succeeds <;>
    first
    | exact ⟨rfl, rfl, rfl, rfl, rfl, _, rfl, fun event member =>
        .inr ⟨_, _, List.mem_singleton.mp member⟩⟩
    | exact ⟨rfl, rfl, rfl, rfl, rfl, _, rfl, fun event member => .inl (List.mem_singleton.mp member)⟩
    | exact ⟨rfl, rfl, rfl, rfl, rfl, [], (List.append_nil _).symm, nofun⟩

/-- Events of no kind change no answers. -/
theorem answers_silent {tag : Tag α} {s t : State} (fresh : List UiEvent) (lawful : tag.Lawful)
    (events : t.events = s.events ++ fresh)
    (silent : ∀ event ∈ fresh, (∀ result, event ≠ .apps result) ∧
      ∀ appId result, event ≠ .launch appId result) : tag.answers t = tag.answers s := by
  have none : fresh.filterMap tag.ofEvent = [] := List.filterMap_eq_nil_iff.mpr fun event member =>
    lawful.silent event (silent event member).1 (silent event member).2
  unfold Tag.answers
  rw [events, List.filterMap_append, none, List.append_nil]

theorem own_untagged {tag : Tag α} (lawful : tag.Lawful) {jobs own : List RequestJob}
    (refreshes : ∀ job ∈ own, job.asked = false) :
    (jobs ++ own).filterMap tag.ofJob = jobs.filterMap tag.ofJob := by
  have none : own.filterMap tag.ofJob = [] :=
    List.filterMap_eq_nil_iff.mpr fun job member => lawful.own job (refreshes job member)
  rw [List.filterMap_append, none, List.append_nil]

/-- The requests under way, from their parts. -/
theorem under_way_of {tag : Tag α} {s t : State} (answers : tag.answers t = tag.answers s)
    (requester : tag.ofRequester t.requester = tag.ofRequester s.requester)
    (jobs : t.jobs.filterMap tag.ofJob = s.jobs.filterMap tag.ofJob)
    (input : t.input = s.input) : tag.underWay t = tag.underWay s := by
  unfold Tag.underWay
  rw [answers, requester, jobs, input]

theorem owed_step {tag : Tag α} {s t : State} {label : Label} (lawful : tag.Lawful)
    (owed : Owed tag s) (taken : step s label = some t) : Owed tag t := by
  have alive : s.requester ≠ .aborted → s.loop ≠ .ended :=
    fun awake ended => awake (owed.ends ended).1
  cases moves_of_step taken with
  | gesture handle performed => exact owed_perform lawful owed handle performed
  | nextEvent pending => exact owed_apply lawful owed pending
  | connected connecting =>
    refine owed.moved (by simp [connecting]) (by simp [State.start]) rfl
      (under_way_of ?_ rfl ?_ rfl)
    · exact answers_silent [.connected] lawful rfl (by simp)
    · exact own_untagged lawful (by simp [RequestJob.asked])
  | refused connecting =>
    refine owed.stopped (by simp [connecting]) rfl rfl rfl ?_
    exact answers_silent [.connectFailed] lawful rfl (by simp)
  | takeSeat selecting queued seat none =>
    refine owed.moved (by simp [selecting]) (by simp) rfl ?_
    unfold Tag.underWay
    dsimp only
    rw [queued, List.filterMap_cons_none (seat_untagged none)]
    rfl
  | @takeRequest command rest job selecting queued other some asked =>
    have before : s.loop ≠ .ended := by simp [selecting]
    refine owed.moved before before rfl ?_
    have tagged : tag.ofCommand command = tag.ofJob job := by
      unfold Tag.ofCommand
      rw [some]
      rfl
    unfold Tag.underWay
    dsimp only
    rw [queued, List.filterMap_append]
    cases found : tag.ofJob job with
    | none =>
      rw [List.filterMap_cons_none found, List.filterMap_cons_none (tagged.trans found)]
      simp [Tag.answers]
    | some a =>
      rw [List.filterMap_cons_some found, List.filterMap_cons_some (tagged.trans found)]
      simp [Tag.answers]
  | handleGone selecting => exact owed.stopped (by simp [selecting]) rfl rfl rfl rfl
  | @applySeat command message succeeds error applying message_of =>
    obtain ⟨loop, requester, jobs, input, widgets, fresh, events, silent⟩ :=
      apply_seat_worker s command message succeeds error
    refine owed.moved (by simp [applying]) (by simp [loop]) (by rw [widgets])
      (under_way_of ?_ (by rw [requester]) (by rw [jobs]) input)
    refine answers_silent fresh lawful events fun event member => ?_
    rcases silent event member with rfl | ⟨id, result, rfl⟩ <;> simp
  | skipSeat applying none => exact owed.moved (by simp [applying]) (by simp) rfl rfl
  | lagged _ => exact owed.still rfl rfl rfl rfl rfl rfl
  | @showFrame cursor decodes active selecting =>
    have before : s.loop ≠ .ended := by simp [selecting]
    refine owed.moved before before rfl (under_way_of ?_ rfl ?_ rfl)
    · refine answers_silent [if decodes then .frame active else .notice] lawful rfl ?_
      cases decodes <;> simp
    · change (if active = s.lastActive then s.jobs else s.jobs ++ [.state]).filterMap _ = _
      split
      · rfl
      · exact own_untagged lawful (by simp [RequestJob.asked])
  | disconnected selecting =>
    refine owed.stopped (by simp [selecting]) rfl rfl rfl ?_
    exact answers_silent [.disconnected] lawful rfl (by simp)
  | tick selecting =>
    have before : s.loop ≠ .ended := by simp [selecting]
    refine owed.moved before before rfl (under_way_of rfl rfl ?_ rfl)
    exact own_untagged lawful (by simp [RequestJob.asked])
  | @takeJob job rest idle queued =>
    have before := alive (by simp [idle])
    obtain ⟨loop, jobs, input⟩ := loop_begin
      { s with jobs := rest, served := s.served ++ [job] } (.job job)
    obtain ⟨index, requester⟩ := requester_begin
      { s with jobs := rest, served := s.served ++ [job] } (.job job)
    refine owed.moved before (by rw [loop]; exact before) (launcher_of_window (window_begin _ _)) ?_
    unfold Tag.underWay Tag.answers
    rw [events_begin, requester, jobs, input, idle, queued]
    dsimp only [Tag.ofRequester]
    cases found : tag.ofJob job with
    | none =>
      rw [List.filterMap_cons_none found, show tag.ofCall (.job job) = none from found]
    | some a =>
      rw [List.filterMap_cons_some found, show tag.ofCall (.job job) = some a from found]
      rfl
  | call => exact owed.still rfl rfl rfl rfl rfl rfl
  | @complete contents call index outcome calling =>
    have before := alive (by simp [calling])
    obtain ⟨loop, jobs, input⟩ := loop_complete s call outcome contents
    refine owed.moved before (by rw [loop]; exact before)
      (launcher_of_window (window_complete _ _ _ _)) ?_
    have rests : tag.ofRequester (s.complete call outcome contents).requester = none := by
      rcases requester_complete s call outcome contents with idle | ⟨index, follow | follow⟩
      · rw [idle]
        rfl
      · rw [follow]
        exact lawful.follow.1
      · rw [follow]
        exact lawful.follow.2
    unfold Tag.underWay Tag.answers
    rw [rests, events_complete, jobs, input, calling, List.filterMap_append, lawful.answer]
    simp [Tag.ofRequester]
  | close => exact owed.still rfl rfl rfl rfl rfl rfl
  | wire => exact owed.still rfl rfl rfl rfl rfl rfl

theorem owed_of_reachable {tag : Tag α} (lawful : tag.Lawful)
    (nothing : tag.owed AppLauncher.new = []) {s : State} (reached : Reachable machine anyStep s) :
    Owed tag s := by
  induction reached with
  | start => exact ⟨fun _ => nothing.symm, nofun⟩
  | next _ _ taken owed => exact owed_step lawful owed taken

/-! ### A launch from its click to its reply -/

def twoWindows : DesktopState :=
  ⟨some ⟨2⟩, [⟨⟨1⟩, some "org.gnome.Nautilus", some "Files"⟩, ⟨⟨2⟩, some "xterm", none⟩]⟩

def contents : Contents :=
  ⟨twoWindows, Viewer.Recording.RecordingStatus.idle, [⟨"xterm", "XTerm"⟩], some ⟨3⟩, true, some ⟨2⟩,
    "unknown_app"⟩

/-- A call that a reply FIFO resolves, from its job to its event. -/
def exchange (reads : List Label) : List Label :=
  [.takeJob, .call .subscribe, .call .register, .call .write, .wire (.readRequest true)] ++ reads ++
    [.wire .dispatch, .call .takeReply, .complete contents]

/-- A row is clicked as soon as the window is connected; the launch is answered after the jobs of
the session's start. -/
def launchAnswered : State :=
  finalState machine anyStep
    ([.connect true true, .gesture (.clickRow "xterm"), .takeInput, .wire (.readInput .unrecorded)] ++
      exchange [.wire (.serve true)] ++
      [.takeJob, .call .subscribe, .call .write, .wire (.readRequest true), .wire (.serve true),
        .wire .dispatch, .call .takeFrame, .complete contents] ++
      exchange [.wire (.serve true)] ++ exchange [] ++
      [.nextEvent, .nextEvent, .nextEvent, .nextEvent])
    (by decide +kernel)

theorem launch_answered_reachable : Reachable machine anyStep launchAnswered :=
  final_state_reachable _ _ _ _

/-- At most one launch and one listing are under way, the ones that the launcher waits for, while
the session runs; and a reply that the window takes is always the one that the launcher waits for:
a launch is answered for the application whose row was clicked. -/
theorem launches_attributed {s : State} (reached : Reachable machine anyStep s) :
    (s.loop ≠ .ended →
      launchTag.underWay s = s.widgets.launcher.pending.toList ∧
        listTag.underWay s = if s.widgets.launcher.fetching then [()] else []) ∧
      (∀ appId result rest, s.events = .launch appId result :: rest →
        ∃ name, s.widgets.launcher.launch = .launching name appId) ∧
      ∀ result rest, s.events = .apps result :: rest → s.widgets.launcher.fetching = true := by
  have launches : Owed launchTag s := owed_of_reachable launch_lawful rfl reached
  have lists : Owed listTag s := owed_of_reachable list_lawful rfl reached
  refine ⟨fun running => ⟨launches.running running, lists.running running⟩, ?_, ?_⟩
  · intro appId result rest pending
    have owed := launches.answered
    unfold Tag.answers at owed
    rw [pending, List.filterMap_cons_some (show launchTag.ofEvent (.launch appId result) = some appId
      from rfl)] at owed
    obtain ⟨others, all⟩ := owed
    change _ = s.widgets.launcher.pending.toList at all
    rw [List.cons_append] at all
    unfold AppLauncher.pending at all
    cases found : s.widgets.launcher.launch with
    | launching name other =>
      rw [found] at all
      obtain ⟨rfl, _⟩ := List.cons.inj all
      exact ⟨name, rfl⟩
    | _ =>
      rw [found] at all
      cases all
  · intro result rest pending
    have owed := lists.answered
    unfold Tag.answers at owed
    rw [pending, List.filterMap_cons_some (show listTag.ofEvent (.apps result) = some () from rfl)]
      at owed
    obtain ⟨others, all⟩ := owed
    change _ = (if s.widgets.launcher.fetching then [()] else []) at all
    rw [List.cons_append] at all
    cases fetching : s.widgets.launcher.fetching with
    | true => rfl
    | false =>
      rw [fetching] at all
      cases all

theorem launches_attributed_answered :
    launchTag.underWay launchAnswered = ["xterm"] ∧
      ∃ name, launchAnswered.widgets.launcher.launch = .launching name "xterm" := by
  have attributed := launches_attributed launch_answered_reachable
  have pending : launchAnswered.events = [.launch "xterm" (.ok (some ⟨3⟩))] := by rfl
  refine ⟨?_, attributed.2.1 _ _ _ pending⟩
  rw [(attributed.1 (by decide +kernel)).1]
  decide +kernel

/-! ## The task bar shows the desktop -/

/-- What a row says apart from its highlight. -/
def row (entry : TaskBarEntry) : WindowId × String := (entry.windowId, entry.label)

/-- The rows that the states received so far ask for. -/
def State.rows (s : State) : List (WindowId × String) :=
  ((s.states.getLast?.map entries).getD []).map row

structure Faithful (s : State) : Prop where
  shown : Shown s.widgets.taskBar
  rows : s.widgets.taskBar.model.map row = State.rows s

theorem Faithful.of_same {s t : State} (faithful : Faithful s)
    (taskBar : t.widgets.taskBar = s.widgets.taskBar) (states : t.states = s.states) :
    Faithful t := by
  constructor
  · rw [taskBar]
    exact faithful.shown
  · unfold State.rows
    rw [taskBar, states]
    exact faithful.rows

theorem rows_set_active (model : List TaskBarEntry) (active : Option WindowId) :
    (Widgets.setActive model active).map row = model.map row := by
  unfold Widgets.setActive
  rw [List.map_map]
  rfl

theorem Faithful.send {s : State} (faithful : Faithful s) (command : InputCommand) :
    Faithful (s.send command) := by
  unfold State.send
  split
  · exact faithful.of_same rfl rfl
  · exact faithful

theorem faithful_perform {s t : State} {gesture : Gesture} (faithful : Faithful s)
    (taken : perform s gesture = some t) : Faithful t := by
  cases gesture with
  | openPopover =>
    simp only [perform] at taken
    split at taken
    · cases taken
      exact Faithful.send (faithful.of_same (by rfl) (by rfl)) _
    · cases taken
      exact faithful
  | clickRow appId =>
    simp only [perform] at taken
    split at taken
    · cases taken
      exact Faithful.send (faithful.of_same (by rfl) (by rfl)) _
    · cases taken
      exact faithful
  | clickSwitch index =>
    obtain ⟨⟨bar, id⟩, clicked, rfl⟩ := Option.map_eq_some_iff.mp taken
    have switched : Faithful { s with widgets := s.widgets.set bar } := by
      refine ⟨shown_click_switch faithful.shown clicked, ?_⟩
      obtain ⟨button, _, rebuilt⟩ := Option.map_eq_some_iff.mp clicked
      cases rebuilt
      exact (rows_set_active _ _).trans faithful.rows
    exact switched.send _
  | clickClose index =>
    obtain ⟨⟨bar, id⟩, clicked, rfl⟩ := Option.map_eq_some_iff.mp taken
    have closed : Faithful { s with widgets := s.widgets.set bar } := by
      refine ⟨shown_click_close faithful.shown clicked, ?_⟩
      obtain ⟨button, _, rebuilt⟩ := Option.map_eq_some_iff.mp clicked
      split at rebuilt <;> cases rebuilt <;> exact faithful.rows
    dsimp only
    split
    · exact closed.send _
    · exact faithful
  | clickRecord =>
    cases taken
    exact faithful.send _
  | seat command =>
    have sent : t = s.send command := by cases command <;> cases taken <;> rfl
    rw [sent]
    exact faithful.send _
  | closeRequest =>
    cases taken
    exact faithful.of_same rfl rfl

theorem faithful_apply {s : State} (faithful : Faithful s) (event : UiEvent) :
    Faithful (apply s event) := by
  cases event with
  | state state =>
    refine ⟨shown_update_state faithful.shown state, ?_⟩
    change (TaskBar.updateState _ state).model.map row = _
    rw [model_update_state]
    unfold State.rows apply
    rw [List.getLast?_append_of_ne_nil _ (List.cons_ne_nil _ _)]
    rfl
  | frame active =>
    exact ⟨shown_set_active faithful.shown.lined active,
      (rows_set_active _ _).trans faithful.rows⟩
  | windowClosed id result =>
    cases result with
    | ok _ => exact faithful
    | error message =>
      refine ⟨shown_restore faithful.shown id, ?_⟩
      change (TaskBar.restore _ id).model.map row = _
      rw [model_restore]
      exact faithful.rows
  | recording result => cases result <;> exact faithful.of_same rfl rfl
  | _ => exact faithful.of_same rfl rfl

theorem faithful_step {s t : State} {label : Label} (faithful : Faithful s)
    (taken : step s label = some t) : Faithful t := by
  have worker : ∀ {t : State}, State.window t = State.window s → Faithful t := by
    intro t same
    have widgets : t.widgets = s.widgets := congrArg Prod.fst same
    exact faithful.of_same (by rw [widgets]) (congrArg Prod.snd same)
  cases moves_of_step taken with
  | gesture _ performed => exact faithful_perform faithful performed
  | nextEvent _ => exact faithful_apply (faithful.of_same (by rfl) (by rfl)) _
  | @applySeat command _ succeeds _ _ _ =>
    refine worker ?_
    unfold State.applySeat
    cases command <;> cases succeeds <;> rfl
  | takeJob _ _ => exact worker (window_begin _ _)
  | complete _ => exact worker (window_complete _ _ _ _)
  | _ => exact worker (by rfl)

theorem faithful_of_reachable {s : State} (reached : Reachable machine anyStep s) : Faithful s := by
  induction reached with
  | start => exact ⟨rfl, rfl⟩
  | next _ _ taken faithful => exact faithful_step faithful taken

/-- In every state the buttons of the task bar are those of its visible entries with their
highlights, the entries are the windows of the last state received, in its order, and a state
brings back every window that it reports, whatever was closed before. -/
theorem task_bar_faithful {s : State} (reached : Reachable machine anyStep s) :
    s.widgets.taskBar.buttons = s.widgets.taskBar.visible.map TaskBarEntry.button ∧
      s.widgets.taskBar.model.map row = ((s.states.getLast?.map entries).getD []).map row ∧
      ∀ state, (apply s (.state state)).widgets.taskBar.buttons =
        (entries state).map TaskBarEntry.button := by
  have faithful := faithful_of_reachable reached
  refine ⟨faithful.shown, faithful.rows, fun state => ?_⟩
  have shown : Shown (s.widgets.taskBar.updateState state) := shown_update_state faithful.shown state
  unfold Shown at shown
  rw [visible_update_state] at shown
  exact shown

theorem task_bar_faithful_answered :
    launchAnswered.widgets.taskBar.model.map row = [(⟨1⟩, "Files"), (⟨2⟩, "xterm")] ∧
      launchAnswered.widgets.taskBar.buttons = [⟨⟨1⟩, "Files", false⟩, ⟨⟨2⟩, "xterm", true⟩] := by
  have faithful := task_bar_faithful launch_answered_reachable
  constructor
  · rw [faithful.2.1]
    decide +kernel
  · rw [faithful.1]
    decide +kernel

end ADesk.ViewerGui.Window
