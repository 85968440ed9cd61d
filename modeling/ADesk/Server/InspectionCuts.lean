/- ADesk/Server/InspectionCuts
   digest: Every refresh is a cut of the compositor, and every picture its caller's own, in the runs
   whose steps disturb no refresh and no reading. -/

import ADesk.Server.Inspection

set_option autoImplicit false

namespace ADesk.Server.InspectionCuts

open ADesk.Compositor.Bridge
open ADesk.Compositor.Events
open ADesk.Compositor.State
open ADesk.Core.Ids (WindowId)
open ADesk.Foundation.Entries (set_entry)
open ADesk.Foundation.Execution
open ADesk.Server.Inspection

universe u v w

section Tasks

variable {C : Type u} {Op : Type v} {ε : Type w} {M : Compositor C Op ε}

theorem cut_iff {snapshot : InspectionSnapshot} {origin : Origin C}
    (frame : M.renderOutput origin.composed = .ok snapshot.frame)
    (state : (snapshot.windows, snapshot.active, snapshot.seq) =
      labels (M.queryState origin.queried)) :
    Cut M snapshot origin.composed ↔ Agree M origin.queried origin.composed :=
  ⟨fun cut => state.symm.trans cut.state, fun agree => ⟨frame, state.trans agree⟩⟩

/-! ## What a step of a task does -/

/-- The steps of a task: the compositor, the cache and the stage after each. -/
inductive Advance (M : Compositor C Op ε) (compositor : C) (cache : Option InspectionSnapshot)
    (around : Surroundings) : Task C ε → C → Option InspectionSnapshot → Stage C ε → Prop
  | composed {job : Job} {frame : ImageBuffer} (rendered : M.renderOutput compositor = .ok frame) :
    Advance M compositor cache around ⟨job, .starting⟩ compositor cache
      (.rendered frame compositor)
  | refused {job : Job} {error : ε} : Advance M compositor cache around ⟨job, .starting⟩ compositor
      cache (.failed (.render error))
  | queried {job : Job} {frame : ImageBuffer} {composed : C} :
    Advance M compositor cache around ⟨job, .rendered frame composed⟩ compositor cache
      (.queried frame ⟨composed, compositor⟩ (M.queryState compositor))
  | assembled {job : Job} {frame : ImageBuffer} {origin : Origin C} {state : StateSnapshot} :
    Advance M compositor cache around ⟨job, .queried frame origin state⟩ compositor cache
      (.assembled (assemble frame state around) origin)
  | stored {job : Job} {snapshot : InspectionSnapshot} {origin : Origin C} :
    Advance M compositor cache around ⟨job, .assembled snapshot origin⟩ compositor (some snapshot)
      (.returned snapshot origin)
  | painted {overlays : List OverlayKind} {request : InspectionRequest}
      {snapshot : InspectionSnapshot} {origin : Origin C} :
    Advance M compositor cache around ⟨.capture overlays request, .returned snapshot origin⟩
      compositor cache (paint cache overlays request snapshot origin none)
  | reserved {job : Job} {snapshot : InspectionSnapshot} {origin : Origin C}
      (reserves : job = .viewer ∨ ∃ overlays, job = .stream overlays) :
    Advance M compositor cache around ⟨job, .returned snapshot origin⟩
      (M.reserveSeq compositor).1 cache (.reserved snapshot origin (M.reserveSeq compositor).2)
  | streamed {overlays : List OverlayKind} {snapshot : InspectionSnapshot} {origin : Origin C}
      {seq : ℕ} :
    Advance M compositor cache around ⟨.stream overlays, .reserved snapshot origin seq⟩ compositor
      cache (paint cache overlays {} snapshot origin (some (seq, snapshot.tsMs)))
  | framed {snapshot : InspectionSnapshot} {origin : Origin C} {seq : ℕ} :
    Advance M compositor cache around ⟨.viewer, .reserved snapshot origin seq⟩ compositor cache
      (.framed snapshot origin
        ⟨seq, around.nowMs, snapshot.frame, around.cursor, snapshot.active⟩)

theorem advance_of_next {task : Task C ε} {compositor after : C}
    {cache later : Option InspectionSnapshot} {around : Surroundings} {stage : Stage C ε}
    (taken : task.next M compositor cache around = some (after, later, stage)) :
    Advance M compositor cache around task after later stage := by
  obtain ⟨job, before⟩ := task
  cases before with
  | starting =>
    simp only [Task.next] at taken
    split at taken
    · next frame rendered =>
      cases taken
      exact .composed rendered
    · cases taken
      exact .refused
  | rendered frame composed =>
    cases taken
    exact .queried
  | queried frame origin state =>
    cases taken
    exact .assembled
  | assembled snapshot origin =>
    cases taken
    exact .stored
  | returned snapshot origin =>
    cases job with
    | capture overlays request =>
      cases taken
      exact .painted
    | stream overlays =>
      cases taken
      exact .reserved (Or.inr ⟨overlays, rfl⟩)
    | viewer =>
      cases taken
      exact .reserved (Or.inl rfl)
    | recording => cases taken
  | reserved snapshot origin seq =>
    cases job with
    | capture overlays request => cases taken
    | stream overlays =>
      cases taken
      exact .streamed
    | viewer =>
      cases taken
      exact .framed
    | recording => cases taken
  | painted => cases taken
  | framed => cases taken
  | failed => cases taken

/-! ## What every refresh keeps -/

/-- The frame was composed in one state of the compositor, the window state read in another. -/
def Honest (M : Compositor C Op ε) : Stage C ε → Prop
  | .starting | .failed _ => True
  | .rendered frame composed => M.renderOutput composed = .ok frame
  | .queried frame origin state =>
    M.renderOutput origin.composed = .ok frame ∧ state = M.queryState origin.queried
  | .assembled snapshot origin | .returned snapshot origin | .reserved snapshot origin _ =>
    M.renderOutput origin.composed = .ok snapshot.frame ∧
      (snapshot.windows, snapshot.active, snapshot.seq) = labels (M.queryState origin.queried)
  | .painted snapshot origin picture =>
    (M.renderOutput origin.composed = .ok snapshot.frame ∧
      (snapshot.windows, snapshot.active, snapshot.seq) = labels (M.queryState origin.queried)) ∧
      picture.source = composedSource snapshot.frame.rect picture.request.region
  | .framed snapshot origin frame =>
    (M.renderOutput origin.composed = .ok snapshot.frame ∧
      (snapshot.windows, snapshot.active, snapshot.seq) = labels (M.queryState origin.queried)) ∧
      frame.image = snapshot.frame ∧ frame.activeWindowId = snapshot.active

theorem Honest.result {stage : Stage C ε} (honest : Honest M stage)
    {snapshot : InspectionSnapshot} {origin : Origin C}
    (returned : stage.result = some (snapshot, origin)) :
    M.renderOutput origin.composed = .ok snapshot.frame ∧
      (snapshot.windows, snapshot.active, snapshot.seq) = labels (M.queryState origin.queried) := by
  cases stage with
  | starting => cases returned
  | rendered => cases returned
  | queried => cases returned
  | assembled => cases returned
  | failed => cases returned
  | returned => cases returned; exact honest
  | reserved => cases returned; exact honest
  | painted => cases returned; exact honest.1
  | framed => cases returned; exact honest.1

theorem honest_paint {cache : Option InspectionSnapshot} {overlays : List OverlayKind}
    {request : InspectionRequest} {snapshot : InspectionSnapshot} {origin : Origin C}
    {stamp : Option (ℕ × ℕ)}
    (honest : M.renderOutput origin.composed = .ok snapshot.frame ∧
      (snapshot.windows, snapshot.active, snapshot.seq) = labels (M.queryState origin.queried)) :
    Honest M (paint cache overlays request snapshot origin stamp) := by
  cases cache with
  | none => exact trivial
  | some cached => exact ⟨honest, rfl⟩

theorem honest_advance {task : Task C ε} {compositor after : C}
    {cache later : Option InspectionSnapshot} {around : Surroundings} {stage : Stage C ε}
    (honest : Honest M task.stage)
    (advance : Advance M compositor cache around task after later stage) : Honest M stage := by
  cases advance with
  | composed rendered => exact rendered
  | refused => exact trivial
  | queried => exact ⟨honest, rfl⟩
  | assembled => exact ⟨honest.1, congrArg labels honest.2⟩
  | stored => exact honest
  | painted => exact honest_paint honest
  | reserved => exact honest
  | streamed => exact honest_paint honest
  | framed => exact ⟨honest, rfl, rfl⟩

/-! ## What an undisturbed refresh keeps -/

/-- The two commands of the refresh saw the same windows, and the cache still holds the snapshot
that the task is to read. -/
def Good (M : Compositor C Op ε) (compositor : C) (cache : Option InspectionSnapshot)
    (task : Task C ε) : Prop :=
  match task.stage with
  | .starting | .failed _ => True
  | .rendered _ composed => Agree M compositor composed
  | .queried _ origin _ | .assembled _ origin | .framed _ origin _ =>
    Agree M origin.queried origin.composed
  | .returned snapshot origin | .reserved snapshot origin _ =>
    Agree M origin.queried origin.composed ∧ (task.job.paints = true → cache = some snapshot)
  | .painted snapshot origin picture =>
    Agree M origin.queried origin.composed ∧
      picture.input = inspectionInput task.job.overlays snapshot

/-- A task that takes no step stays good when its own part of the world stays as it is. -/
theorem Good.kept {compositor after : C} {cache later : Option InspectionSnapshot}
    {task : Task C ε} (good : Good M compositor cache task)
    (steady : task.stage.split = true → Agree M after compositor)
    (keeps : task.awaits = true → later = cache) : Good M after later task := by
  obtain ⟨job, stage⟩ := task
  cases stage with
  | starting => exact trivial
  | rendered frame composed => exact (steady rfl).trans good
  | queried => exact good
  | assembled => exact good
  | returned snapshot origin =>
    exact ⟨good.1, fun paints => (keeps (Bool.and_eq_true_iff.mpr ⟨paints, rfl⟩)).trans
      (good.2 paints)⟩
  | reserved snapshot origin seq =>
    exact ⟨good.1, fun paints => (keeps (Bool.and_eq_true_iff.mpr ⟨paints, rfl⟩)).trans
      (good.2 paints)⟩
  | painted => exact good
  | framed => exact good
  | failed => exact trivial

theorem good_paint {compositor : C} {job : Job} {overlays : List OverlayKind}
    {request : InspectionRequest} {snapshot : InspectionSnapshot} {origin : Origin C}
    {stamp : Option (ℕ × ℕ)} {cache : Option InspectionSnapshot}
    (same : job.overlays = normalize overlays) (agree : Agree M origin.queried origin.composed)
    (own : cache = some snapshot) :
    Good M compositor cache ⟨job, paint cache overlays request snapshot origin stamp⟩ := by
  subst own
  refine ⟨agree, ?_⟩
  rw [same]

/-- The step of a task keeps its own promise. -/
theorem good_advance {task : Task C ε} {compositor after : C}
    {cache later : Option InspectionSnapshot} {around : Surroundings} {stage : Stage C ε}
    (good : Good M compositor cache task)
    (advance : Advance M compositor cache around task after later stage) :
    Good M after later { task with stage } := by
  cases advance with
  | composed => exact rfl
  | refused => exact trivial
  | queried => exact good
  | assembled => exact good
  | stored => exact ⟨good, fun _ => rfl⟩
  | painted => exact good_paint rfl good.1 (good.2 rfl)
  | reserved => exact good
  | streamed => exact good_paint rfl good.1 (good.2 rfl)
  | framed => exact good.1

end Tasks

/-! ## Runs -/

section Runs

variable {C : Type u} {Op : Type v} {ε : Type w} {M : Compositor C Op ε} {start : C}
  {state next : State C ε}

/-- The tasks after one of them took a step: that one at its new stage, and others as they were. -/
theorem task_advanced {index : ℕ} {around : Surroundings}
    (taken : state.step M (.advance index around) = some next) :
    ∃ before compositor cache stage, state.tasks[index]? = some before ∧
      Advance M state.compositor state.cache around before compositor cache stage ∧
      next = { compositor, cache, tasks := state.tasks.set index { before with stage } } := by
  simp only [State.step] at taken
  split at taken
  · cases taken
  · next before present =>
    obtain ⟨⟨compositor, cache, stage⟩, advanced, same⟩ := Option.map_eq_some_iff.mp taken
    exact ⟨before, compositor, cache, stage, present, advance_of_next advanced, same.symm⟩

theorem mem_set {index : ℕ} {before after task : Task C ε}
    (present : state.tasks[index]? = some before) (member : task ∈ state.tasks.set index after) :
    task = after ∨ ∃ other : ℕ, other ≠ index ∧ state.tasks[other]? = some task := by
  obtain ⟨other, found⟩ := List.mem_iff_getElem?.mp member
  rcases (set_entry present other task).mp found with ⟨-, same⟩ | ⟨apart, kept⟩
  · exact Or.inl same
  · exact Or.inr ⟨other, apart, kept⟩

theorem honest_of_reachable {allowed : State C ε → Action Op → Prop}
    (reached : Reachable (server M start) allowed state) :
    ∀ task ∈ state.tasks, Honest M task.stage := by
  induction reached with
  | start => exact fun _ member => absurd member List.not_mem_nil
  | @next before after action _ _ taken ih =>
    cases action with
    | begin job =>
      cases taken
      intro task member
      rcases List.mem_append.mp member with old | fresh
      · exact ih task old
      · rw [List.mem_singleton.mp fresh]
        exact trivial
    | advance index around =>
      obtain ⟨moved, compositor, cache, stage, present, advanced, rfl⟩ := task_advanced taken
      intro task member
      rcases mem_set present member with rfl | ⟨other, -, kept⟩
      · exact honest_advance (ih moved (List.mem_of_getElem? present)) advanced
      · exact ih task (List.mem_of_getElem? kept)
    | operate op =>
      cases taken
      exact ih
    | fold event around =>
      cases taken
      exact ih
    | resync answer nowMs =>
      cases taken
      exact ih

/-- Every task is good. -/
def Settled (M : Compositor C Op ε) (state : State C ε) : Prop :=
  ∀ task ∈ state.tasks, Good M state.compositor state.cache task

theorem steady_task {after : C} (steady : state.Steady M after) {task : Task C ε}
    (member : task ∈ state.tasks) (split : task.stage.split = true) :
    Agree M after state.compositor :=
  steady (List.any_eq_true.mpr ⟨task, member, split⟩)

theorem keeps_task {cache : Option InspectionSnapshot} (keeps : state.Keeps cache)
    {task : Task C ε} (member : task ∈ state.tasks) (awaits : task.awaits = true) :
    cache = state.cache :=
  keeps (List.any_eq_true.mpr ⟨task, member, awaits⟩)

/-- What an undisturbed step of one task does to the world of the others. -/
theorem advance_undisturbed {index : ℕ} {around : Surroundings} {before : Task C ε}
    {compositor : C} {cache : Option InspectionSnapshot} {stage : Stage C ε}
    (present : state.tasks[index]? = some before)
    (allowed : Undisturbed M state (.advance index around))
    (advance : Advance M state.compositor state.cache around before compositor cache stage) :
    state.Steady M compositor ∧ state.Keeps cache := by
  simp only [Undisturbed, present] at allowed
  cases advance with
  | stored => exact ⟨fun _ => rfl, allowed⟩
  | reserved reserves =>
    rcases reserves with rfl | ⟨overlays, rfl⟩
    · exact ⟨allowed, fun _ => rfl⟩
    · exact ⟨allowed, fun _ => rfl⟩
  | composed => exact ⟨fun _ => rfl, fun _ => rfl⟩
  | refused => exact ⟨fun _ => rfl, fun _ => rfl⟩
  | queried => exact ⟨fun _ => rfl, fun _ => rfl⟩
  | assembled => exact ⟨fun _ => rfl, fun _ => rfl⟩
  | painted => exact ⟨fun _ => rfl, fun _ => rfl⟩
  | streamed => exact ⟨fun _ => rfl, fun _ => rfl⟩
  | framed => exact ⟨fun _ => rfl, fun _ => rfl⟩

theorem settled_step {action : Action Op} (settled : Settled M state)
    (allowed : Undisturbed M state action) (taken : (server M start).step state action = some next) :
    Settled M next := by
  cases action with
  | begin job =>
    cases taken
    intro task member
    rcases List.mem_append.mp member with old | fresh
    · exact settled task old
    · rw [List.mem_singleton.mp fresh]
      exact trivial
  | advance index around =>
    obtain ⟨moved, compositor, cache, stage, present, advanced, rfl⟩ := task_advanced taken
    obtain ⟨steady, keeps⟩ := advance_undisturbed present allowed advanced
    intro task member
    rcases mem_set present member with rfl | ⟨other, -, kept⟩
    · exact good_advance (settled moved (List.mem_of_getElem? present)) advanced
    · have inside := List.mem_of_getElem? kept
      exact (settled task inside).kept (steady_task steady inside) (keeps_task keeps inside)
  | operate op =>
    cases taken
    exact fun task member => (settled task member).kept
      (steady_task allowed member) fun _ => rfl
  | fold event around =>
    cases taken
    exact fun task member => (settled task member).kept (fun _ => rfl)
      (keeps_task allowed member)
  | resync answer nowMs =>
    cases taken
    exact fun task member => (settled task member).kept (fun _ => rfl)
      (keeps_task allowed member)

theorem settled_of_reachable (reached : Reachable (server M start) (Undisturbed M) state) :
    Settled M state := by
  induction reached with
  | start => exact fun _ member => absurd member List.not_mem_nil
  | next _ allowed taken ih => exact settled_step ih allowed taken

theorem Good.agree {compositor : C} {cache : Option InspectionSnapshot} {task : Task C ε}
    (good : Good M compositor cache task) {snapshot : InspectionSnapshot} {origin : Origin C}
    (returned : task.stage.result = some (snapshot, origin)) :
    Agree M origin.queried origin.composed := by
  obtain ⟨job, stage⟩ := task
  cases stage with
  | starting => cases returned
  | rendered => cases returned
  | queried => cases returned
  | assembled => cases returned
  | failed => cases returned
  | returned => cases returned; exact good.1
  | reserved => cases returned; exact good.1
  | painted => cases returned; exact good.1
  | framed => cases returned; exact good

theorem labelled_of_good {compositor : C} {cache : Option InspectionSnapshot} {task : Task C ε}
    (honest : Honest M task.stage) (good : Good M compositor cache task) : Labelled M task := by
  obtain ⟨job, stage⟩ := task
  cases stage with
  | painted snapshot origin picture => exact ⟨good.2, honest.2⟩
  | framed snapshot origin frame =>
    obtain ⟨⟨-, state⟩, image, active⟩ := honest
    refine ⟨image, active.trans ?_⟩
    exact congrArg (fun label => label.2.1) (state.trans good)
  | starting => exact trivial
  | rendered => exact trivial
  | queried => exact trivial
  | assembled => exact trivial
  | returned => exact trivial
  | reserved => exact trivial
  | failed => exact trivial

/-- In every run a snapshot that a refresh returned is a cut exactly if the compositor reported
the same windows, active window and number when the frame was composed and when it was asked for
them. In every run whose steps disturb no refresh between its two commands and no task between
its store and its reading, every returned snapshot is a cut, and every picture is painted and
labelled from its caller's own. -/
theorem refreshes_are_cuts (M : Compositor C Op ε) (start : C) :
    (∀ state, Reachable (server M start) anyStep state → ∀ task ∈ state.tasks,
        ∀ snapshot origin, task.stage.result = some (snapshot, origin) →
          (Cut M snapshot origin.composed ↔ Agree M origin.queried origin.composed)) ∧
      ∀ state, Reachable (server M start) (Undisturbed M) state → ∀ task ∈ state.tasks,
        (∀ snapshot origin, task.stage.result = some (snapshot, origin) →
          Cut M snapshot origin.composed) ∧ Labelled M task := by
  constructor
  · intro state reached task member snapshot origin returned
    obtain ⟨frame, labels⟩ := (honest_of_reachable reached task member).result returned
    exact cut_iff frame labels
  · intro state reached task member
    have honest := honest_of_reachable reached task member
    have good := settled_of_reachable reached task member
    refine ⟨fun snapshot origin returned => ?_, labelled_of_good honest good⟩
    obtain ⟨frame, labels⟩ := honest.result returned
    exact (cut_iff frame labels).mpr (good.agree returned)

end Runs

/-! ## Two runs -/

section Desktop

/-- An operation of the compositor thread, with all the events it owes. -/
inductive Operation
  | client (request : ClientRequest)
  | command (command : Command)

def emitAll (state : CompositorState) (emissions : List Emission) : CompositorState :=
  emissions.foldl (fun state _ => { state with events := state.events.nextSeq.1 }) state

def operate (state : CompositorState) : Operation → CompositorState
  | .client request =>
    let handled := handleClient state request
    emitAll { state with wm := handled.1 } handled.2
  | .command command =>
    let handled := handleCommand state 0 command
    emitAll handled.1 handled.2.1

/-- The compositor thread with a picture of one pixel, which shows the active window. -/
def desktop : Compositor CompositorState Operation String where
  operate := operate
  renderOutput state :=
    .ok ⟨1, 1, [((snapshot state 0).activeWindowId.elim 0 WindowId.val).toUInt8]⟩
  queryState state := snapshot state 0
  reserveSeq state :=
    let reserved := state.events.nextSeq
    ({ state with events := reserved.1 }, reserved.2)

/-- Two mapped windows, the second of them active. -/
def twoWindows : CompositorState :=
  [Operation.client (.newToplevel 1), .client (.commit 1 [] true { title := some "a" } .empty),
    .client (.newToplevel 2), .client (.commit 2 [] true { title := some "b" } .empty)].foldl
    operate (.new ⟨1280, 800⟩)

instance decidableUndisturbed {C : Type u} {Op : Type v} {ε : Type w} (M : Compositor C Op ε)
    (state : State C ε) (action : Action Op) : Decidable (Undisturbed M state action) :=
  match action with
  | .begin _ => isTrue trivial
  | .advance index around =>
    match present : state.tasks[index]? with
    | none => isTrue (by simp only [Undisturbed, present])
    | some ⟨job, .assembled snapshot origin⟩ =>
      decidable_of_iff (state.Keeps (some snapshot)) (by simp only [Undisturbed, present])
    | some ⟨.stream _, .returned _ _⟩ | some ⟨.viewer, .returned _ _⟩ =>
      decidable_of_iff (state.Steady M (M.reserveSeq state.compositor).1)
        (by simp only [Undisturbed, present])
    | some ⟨.capture _ _, .returned _ _⟩ | some ⟨.recording, .returned _ _⟩ =>
      isTrue (by simp only [Undisturbed, present])
    | some ⟨_, .starting⟩ | some ⟨_, .rendered _ _⟩ | some ⟨_, .queried _ _ _⟩
    | some ⟨_, .reserved _ _ _⟩ | some ⟨_, .painted _ _ _⟩ | some ⟨_, .framed _ _ _⟩
    | some ⟨_, .failed _⟩ => isTrue (by simp only [Undisturbed, present])
  | .operate op => inferInstanceAs (Decidable (state.Steady M _))
  | .fold event around => inferInstanceAs (Decidable (state.Keeps _))
  | .resync answer nowMs => inferInstanceAs (Decidable (state.Keeps _))

def steps (index count : ℕ) : List (Action Operation) :=
  List.replicate count (.advance index { nowMs := 100 })

/-- A capture that shows the focus, with nothing in between. -/
def captureAlone : State CompositorState String :=
  finalState (server desktop twoWindows) (Undisturbed desktop)
    (.begin (.capture [.focus] {}) :: steps 0 5) (by decide +kernel)

theorem refreshes_are_cuts_alone :
    captureAlone.tasks.map (fun task => task.stage.result.isSome) = [true] ∧
      ∀ task ∈ captureAlone.tasks,
        (∀ snapshot origin, task.stage.result = some (snapshot, origin) →
          Cut desktop snapshot origin.composed) ∧ Labelled desktop task :=
  ⟨by decide +kernel,
    (refreshes_are_cuts desktop twoWindows).2 captureAlone (final_state_reachable _ _ _ _)⟩

/-- The picture of a finished task. -/
def pictureOf (state : State CompositorState String) (index : ℕ) :
    Option (InspectionSnapshot × Origin CompositorState × Picture) :=
  (state.tasks[index]?).bind fun task =>
    match task.stage with
    | .painted snapshot origin picture => some (snapshot, origin, picture)
    | _ => none

/-- The first window is activated between the two commands of a capture, and another connection
stores its snapshot before the first one reads the cache back. -/
def tornCapture : State CompositorState String :=
  finalState (server desktop twoWindows) anyStep
    (.begin (.capture [.focus] {}) :: steps 0 1 ++ .operate (.command (.activateWindow ⟨1⟩)) ::
      steps 0 3 ++ .begin (.capture [.focus] {}) :: steps 1 4 ++ steps 0 1)
    (by decide +kernel)

/-- The snapshot names the first window active over pixels of the second one, and the picture is
painted on the pixels of the other connection. -/
theorem capture_torn :
    Reachable (server desktop twoWindows) anyStep tornCapture ∧
      (pictureOf tornCapture 0).map (fun found =>
        (found.1.active, (desktop.queryState found.2.1.composed).activeWindowId,
          found.1.frame.data, found.2.2.input.frame.data)) =
      some (some ⟨1⟩, some ⟨2⟩, [2], [1]) :=
  ⟨final_state_reachable _ _ _ _, by decide +kernel⟩

end Desktop

end ADesk.Server.InspectionCuts
