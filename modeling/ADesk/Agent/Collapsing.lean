/- ADesk/Agent/Collapsing
   digest: The events that the context builder keeps are the newest runs of its history. -/

import ADesk.Agent.Context

set_option autoImplicit false

namespace ADesk.Agent.Collapsing

open ADesk.Agent.Context
open ADesk.Core.Event
open ADesk.Core.Ids
open ADesk.Foundation.Runs

/-! ## The collapsed history -/

/-- The window whose surface was committed. -/
def commitWindow : RuntimeEvent → Option WindowId
  | .surfaceCommit _ _ windowId .. => some windowId
  | _ => none

def damageRects : RuntimeEvent → ℕ
  | .surfaceCommit _ _ _ _ damage => damage.rects.length
  | _ => 0

/-- Both are commits of one window. -/
def joins (first second : RuntimeEvent) : Bool :=
  (commitWindow first).isSome && decide (commitWindow first = commitWindow second)

/-- The rectangles of a run, added up in a `usize`. -/
def totalRects : List RuntimeEvent → ℕ
  | [] => 0
  | first :: rest =>
    rest.foldl (fun total event => (total + damageRects event) % 2 ^ 64) (damageRects first)

/-- What the summary of a run says; the commits of the run are counted in a `u32`. -/
def runDetail (run : List RuntimeEvent) : RuntimeEvent → String
  | .surfaceCommit _ _ _ commitSeq _ =>
    commitDetail commitSeq (run.length % 2 ^ 32) (totalRects run)
  | last => describeEvent last

/-- The summary of a run is that of its last event, except for the detail. -/
def summarizeRun (maxDetailChars : ℕ) (run : List RuntimeEvent) : Option EventSummary :=
  run.getLast?.map fun last =>
    ⟨last.kind, last.seq, last.tsMs, last.windowId,
      truncate (runDetail run last) maxDetailChars ""⟩

/-- One summary for each run of the history. -/
def collapsed (maxDetailChars : ℕ) (history : List RuntimeEvent) : List EventSummary :=
  (history.splitBy joins).filterMap (summarizeRun maxDetailChars)

/-- The events recorded since the last reset. -/
def recorded (history : List RuntimeEvent) : Operation → List RuntimeEvent
  | .recordEvents events => history ++ events
  | .reset => []
  | .recordAction _ | .setImage _ | .clearImage => history

def historyOf (operations : List Operation) : List RuntimeEvent := operations.foldl recorded []

variable {maxDetailChars : ℕ} {history run : List RuntimeEvent} {event : RuntimeEvent}

theorem commit_of {windowId : WindowId} (committed : commitWindow event = some windowId) :
    ∃ seq tsMs commitSeq damage, event = .surfaceCommit seq tsMs windowId commitSeq damage := by
  cases event with
  | surfaceCommit seq tsMs own commitSeq damage =>
    cases committed
    exact ⟨seq, tsMs, commitSeq, damage, rfl⟩
  | _ => cases committed

theorem joins_windows {last : RuntimeEvent} (joined : joins last event = true) :
    ∃ windowId, commitWindow last = some windowId ∧ commitWindow event = some windowId := by
  obtain ⟨committed, same⟩ := Bool.and_eq_true_iff.mp joined
  obtain ⟨windowId, window⟩ := Option.isSome_iff_exists.mp committed
  exact ⟨windowId, window, (of_decide_eq_true same).symm.trans window⟩

theorem summarize_single : summarizeRun maxDetailChars [event] =
    some (EventSummary.fromEvent event maxDetailChars) := by
  cases event <;> rfl

theorem summarize_commits {seq tsMs commitSeq : ℕ} {windowId : WindowId}
    {damage : Core.Geometry.Region}
    (ends : run.getLast? = some (.surfaceCommit seq tsMs windowId commitSeq damage)) :
    summarizeRun maxDetailChars run = some ⟨.surfaceCommit, seq, tsMs, some windowId,
      truncate (commitDetail commitSeq (run.length % 2 ^ 32) (totalRects run))
        maxDetailChars ""⟩ := by
  unfold summarizeRun
  rw [ends]
  rfl

theorem collapsed_apart (apart : ∀ last ∈ history.getLast?, joins last event = false) :
    collapsed maxDetailChars (history ++ [event]) =
      collapsed maxDetailChars history ++ [EventSummary.fromEvent event maxDetailChars] := by
  unfold collapsed
  rw [split_apart apart, List.filterMap_append]
  exact congrArg _ (List.filterMap_cons_some summarize_single)

theorem collapsed_split {earlier : List (List RuntimeEvent)} {summary : EventSummary}
    (split : history.splitBy joins = earlier ++ [run])
    (last : summarizeRun maxDetailChars run = some summary) :
    collapsed maxDetailChars history =
      earlier.filterMap (summarizeRun maxDetailChars) ++ [summary] := by
  unfold collapsed
  rw [split, List.filterMap_append]
  exact congrArg _ (List.filterMap_cons_some last)

/-! ## The group of the last run -/

def groupOf (run : List RuntimeEvent) : Option CommitGroup :=
  run.getLast?.bind fun last => (commitWindow last).map fun windowId =>
    ⟨windowId, run.length % 2 ^ 32, totalRects run⟩

/-- The group of the run that the history ends with. -/
def lastGroup (history : List RuntimeEvent) : Option CommitGroup :=
  (history.splitBy joins).getLast?.bind groupOf

theorem last_group_apart (apart : ∀ last ∈ history.getLast?, joins last event = false) :
    lastGroup (history ++ [event]) = groupOf [event] := by
  unfold lastGroup
  rw [split_apart apart, List.getLast?_concat]
  rfl

theorem last_group_split {earlier : List (List RuntimeEvent)}
    (split : history.splitBy joins = earlier ++ [run]) : lastGroup history = groupOf run := by
  unfold lastGroup
  rw [split, List.getLast?_concat]
  rfl

theorem total_rects_concat (filled : run ≠ []) :
    totalRects (run ++ [event]) = (totalRects run + damageRects event) % 2 ^ 64 := by
  cases run with
  | nil => exact absurd rfl filled
  | cons first rest => exact List.foldl_concat _ _ _ _

theorem group_concat {windowId : WindowId} (filled : run ≠ [])
    (committed : commitWindow event = some windowId) :
    groupOf (run ++ [event]) =
      some (CommitGroup.grow ⟨windowId, run.length % 2 ^ 32, totalRects run⟩
        (damageRects event)) := by
  unfold groupOf CommitGroup.grow
  rw [List.getLast?_concat, total_rects_concat filled, List.length_append, Nat.mod_add_mod]
  exact congrArg (Option.map _) committed

/-- The window of the group is that of the last event. -/
theorem last_group_window {group : CommitGroup} (found : lastGroup history = some group) :
    ∃ last, history.getLast? = some last ∧ commitWindow last = some group.windowId := by
  rcases List.eq_nil_or_concat (history.splitBy joins) with none | ⟨earlier, run, split⟩
  · unfold lastGroup at found
    rw [none] at found
    cases found
  · rw [List.concat_eq_append] at split
    rw [last_group_split split] at found
    obtain ⟨last, ends, window⟩ := Option.bind_eq_some_iff.mp found
    obtain ⟨windowId, committed, same⟩ := Option.map_eq_some_iff.mp window
    subst same
    exact ⟨last, (split_last split).trans ends, committed⟩

/-! ## One event -/

/-- An event that is not counted in the group at hand is pushed. -/
theorem record_event_apart (b : ContextBuilder) (event : RuntimeEvent)
    (apart : ∀ group ∈ b.commitGroup, commitWindow event ≠ some group.windowId) :
    b.recordEvent event =
      { b with
        commitGroup := groupOf [event]
        events := push b.budget.maxEvents
          (EventSummary.fromEvent event b.budget.maxDetailChars) b.events } := by
  cases event with
  | surfaceCommit seq tsMs windowId commitSeq damage =>
    have other : b.commitGroup.filter (fun group => group.windowId = windowId) = none := by
      rw [Option.filter_eq_none_iff]
      intro group found
      have differs := apart group found
      simp only [commitWindow, ne_eq, Option.some.injEq] at differs
      simpa using Ne.symm differs
    unfold ContextBuilder.recordEvent
    simp only [other]
    rfl
  | _ => rfl

/-- A commit of the window of the group is counted in the first summary. -/
theorem record_event_joined {b : ContextBuilder} {group : CommitGroup} {head : EventSummary}
    {rest : List EventSummary} (found : b.commitGroup = some group)
    (shown : b.events = head :: rest) (seq tsMs commitSeq : ℕ) (damage : Core.Geometry.Region) :
    b.recordEvent (.surfaceCommit seq tsMs group.windowId commitSeq damage) =
      { b with
        commitGroup := some (group.grow damage.rects.length)
        events :=
          { head with
            seq := seq
            tsMs := tsMs
            detail :=
              truncate (commitDetail commitSeq (group.grow damage.rects.length).commits
                (group.grow damage.rects.length).damageRects)
                b.budget.maxDetailChars "" } :: rest } := by
  have own : b.commitGroup.filter (fun other => other.windowId = group.windowId) = some group := by
    rw [found]
    simp [Option.filter]
  unfold ContextBuilder.recordEvent
  simp only [own, shown]
  rfl

/-- Events only change what is kept of the events. -/
theorem record_event_frame (b : ContextBuilder) (event : RuntimeEvent) :
    (b.recordEvent event).budget = b.budget ∧ (b.recordEvent event).actions = b.actions ∧
      (b.recordEvent event).images = b.images := by
  unfold ContextBuilder.recordEvent
  dsimp only
  split
  · split
    · exact ⟨rfl, rfl, rfl⟩
    · exact ⟨rfl, rfl, rfl⟩
  · exact ⟨rfl, rfl, rfl⟩

/-- The builder has the newest runs of the history, and its group is the last of them. -/
structure Follows (b : ContextBuilder) (history : List RuntimeEvent) : Prop where
  events : b.events =
    (collapsed b.budget.maxDetailChars history).reverse.take b.budget.maxEvents
  group : b.budget.maxEvents ≠ 0 → b.commitGroup = lastGroup history

theorem Follows.pushed {b : ContextBuilder} (follows : Follows b history)
    (room : b.budget.maxEvents ≠ 0)
    (apart : ∀ last ∈ history.getLast?, joins last event = false) :
    Follows (b.recordEvent event) (history ++ [event]) := by
  have other : ∀ group ∈ b.commitGroup, commitWindow event ≠ some group.windowId := by
    intro group found same
    rw [follows.group room] at found
    obtain ⟨last, ends, window⟩ := last_group_window found
    have joined := apart last ends
    simp [joins, window, same] at joined
  rw [record_event_apart b event other]
  constructor
  · dsimp only
    rw [follows.events, collapsed_apart apart]
    exact push_newest _ _ _
  · intro _
    exact (last_group_apart apart).symm

theorem Follows.counted {b : ContextBuilder} (follows : Follows b history)
    (room : b.budget.maxEvents ≠ 0) {last : RuntimeEvent} (ends : history.getLast? = some last)
    (joined : joins last event = true) :
    Follows (b.recordEvent event) (history ++ [event]) := by
  rcases List.eq_nil_or_concat (history.splitBy joins) with none | ⟨earlier, run, split⟩
  · rw [List.splitBy_eq_nil.mp none] at ends
    cases ends
  rw [List.concat_eq_append] at split
  have runEnds : run.getLast? = some last := (split_last split).symm.trans ends
  have filled : run ≠ [] := split_nonempty split
  have grown := split_joined split runEnds joined
  obtain ⟨windowId, window, committed⟩ := joins_windows joined
  obtain ⟨oldSeq, oldTsMs, oldCommitSeq, oldDamage, rfl⟩ := commit_of window
  obtain ⟨seq, tsMs, commitSeq, damage, rfl⟩ := commit_of committed
  -- The builder before: the group and the first summary are those of the run.
  have group : b.commitGroup = some ⟨windowId, run.length % 2 ^ 32, totalRects run⟩ := by
    rw [follows.group room, last_group_split split]
    unfold groupOf
    rw [runEnds]
    rfl
  have shown := follows.events
  rw [collapsed_split split (summarize_commits runEnds), newest_first room] at shown
  -- The builder after: both are those of the longer run.
  have step := record_event_joined group shown seq tsMs commitSeq damage
  have after := group_concat filled committed
  rw [← last_group_split grown] at after
  rw [step]
  constructor
  · dsimp only
    rw [collapsed_split grown (summarize_commits List.getLast?_concat), newest_first room,
      List.length_append, total_rects_concat filled]
    unfold CommitGroup.grow
    dsimp only
    rw [Nat.mod_add_mod]
    rfl
  · intro _
    exact after.symm

theorem Follows.record {b : ContextBuilder} (follows : Follows b history)
    (room : b.budget.maxEvents ≠ 0) (event : RuntimeEvent) :
    Follows (b.recordEvent event) (history ++ [event]) := by
  by_cases meets : ∃ last, history.getLast? = some last ∧ joins last event = true
  · obtain ⟨last, ends, joined⟩ := meets
    exact follows.counted room ends joined
  · refine follows.pushed room fun last ends => ?_
    exact Bool.eq_false_of_not_eq_true fun joined => meets ⟨last, ends, joined⟩

/-! ## Runs -/

/-- What holds of the builder after any operations: the history decides its events, and what
else it keeps is within the caps. -/
structure Sound (budget : ContextBudget) (history : List RuntimeEvent) (b : ContextBuilder) :
    Prop where
  same : b.budget = budget
  follows : Follows b history
  actions : b.actions.length ≤ budget.maxActions
  images : b.images.imageCount ≤ budget.maxImages

theorem sound_new (budget : ContextBudget) : Sound budget [] (.new budget) :=
  ⟨rfl, ⟨List.take_nil.symm, fun _ => rfl⟩, Nat.zero_le _, Nat.zero_le _⟩

theorem set_image_bounded (maxImages : ℕ) (images : Costs.ContextBuilder)
    (image : Option Costs.ImagePayload) :
    (images.setImage maxImages image).imageCount ≤ maxImages := by
  unfold Costs.ContextBuilder.setImage
  split
  · exact Nat.zero_le _
  · split
    · exact Nat.zero_le _
    · next none_kept =>
      have current : images.currentImage.isSome.toNat ≤ 1 := Bool.toNat_le _
      unfold Costs.ContextBuilder.imageCount
      dsimp only
      split
      · simp only [Option.isSome_some, Bool.toNat_true]
        omega
      · simp only [Option.isSome_some, Option.isSome_none, Bool.toNat_true, Bool.toNat_false]
        omega

variable {budget : ContextBudget} {b : ContextBuilder}

theorem Sound.records (sound : Sound budget history b) (room : b.budget.maxEvents ≠ 0)
    (events : List RuntimeEvent) :
    Sound budget (history ++ events) (events.foldl ContextBuilder.recordEvent b) := by
  induction events generalizing history b with
  | nil =>
    rw [List.append_nil]
    exact sound
  | cons event rest ih =>
    obtain ⟨same, actions, images⟩ := record_event_frame b event
    have next : Sound budget (history ++ [event]) (b.recordEvent event) :=
      ⟨same.trans sound.same, sound.follows.record room event, actions ▸ sound.actions,
        images ▸ sound.images⟩
    have later := ih next (by rw [same]; exact room)
    rwa [List.append_assoc, List.singleton_append] at later

/-- Every operation keeps the builder sound. -/
theorem Sound.apply (sound : Sound budget history b) (operation : Operation) :
    Sound budget (recorded history operation) (b.apply operation) := by
  obtain ⟨same, follows, actions, images⟩ := sound
  cases operation with
  | recordAction record =>
    unfold ContextBuilder.apply ContextBuilder.recordAction
    dsimp only
    split
    · exact ⟨same, follows, actions, images⟩
    · exact ⟨same, ⟨follows.events, follows.group⟩, same ▸ push_length _ _ _, images⟩
  | recordEvents events =>
    unfold ContextBuilder.apply ContextBuilder.recordEvents
    dsimp only
    split
    · next none_kept =>
      refine ⟨same, ⟨?_, fun room => absurd none_kept room⟩, actions, images⟩
      dsimp only
      rw [none_kept, List.take_zero]
    · next room => exact Sound.records ⟨same, follows, actions, images⟩ room events
  | setImage image =>
    exact ⟨same, ⟨follows.events, follows.group⟩, actions, same ▸ set_image_bounded _ _ _⟩
  | clearImage => exact ⟨same, ⟨follows.events, follows.group⟩, actions, Nat.zero_le _⟩
  | reset => exact ⟨same, ⟨List.take_nil.symm, fun _ => rfl⟩, Nat.zero_le _, Nat.zero_le _⟩

theorem sound_after (budget : ContextBudget) (operations : List Operation) :
    Sound budget (historyOf operations) (builderAfter budget operations) := by
  have run : ∀ {history : List RuntimeEvent} {b : ContextBuilder}, Sound budget history b →
      Sound budget (operations.foldl recorded history)
        (operations.foldl ContextBuilder.apply b) := by
    induction operations with
    | nil => exact fun sound => sound
    | cons operation rest ih => exact fun sound => ih (sound.apply operation)
  exact run (sound_new budget)

end ADesk.Agent.Collapsing
