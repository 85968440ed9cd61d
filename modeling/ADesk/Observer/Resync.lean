/- ADesk/Observer/Resync
   digest: The window table and the synthetic events that one resync section produces. -/

import ADesk.Observer.Sections

set_option autoImplicit false

namespace ADesk.Observer.Resync

open ADesk.Core.Ids (WindowId WindowMap insert_lookup erase_lookup ascending_ext)
open ADesk.Core.Geometry (Region)
open ADesk.Observer.Journal
open ADesk.Observer.State
open ADesk.Observer.Service
open ADesk.Observer.Sections

/-- The state of a snapshot window after a resync, from its state before. -/
def coveredState (snapshot : StateSnapshot) (old : Option WindowTemporalState)
    (window : WindowSnapshot) : WindowTemporalState :=
  match old with
  | none => seedWindow snapshot window
  | some existing =>
    let adopted :=
      if window.lastCommitSeq > existing.lastCommitSeq then adoptCommit snapshot window existing
      else existing
    { adopted with geometry := some window.geometry, stateUncertain := true }

/-- The synthetic event of a snapshot window: a missed creation, a missed commit, or none. -/
def coverEvent (snapshot : StateSnapshot) (windows : WindowMap WindowTemporalState)
    (window : WindowSnapshot) : Option CountedEvent :=
  match trackedCommit windows window.windowId with
  | none => some (syntheticEvent snapshot window.windowId .created)
  | some known =>
    if window.lastCommitSeq > known then
      some (syntheticEvent snapshot window.windowId (.commit window.lastCommitSeq Region.empty))
    else none

/-- The tracked windows that the snapshot lacks, ascending. -/
def goneWindows (windows : WindowMap WindowTemporalState) (snapshot : StateSnapshot) :
    List WindowId :=
  windows.keys.filter (fun windowId => !snapshot.windowIds.contains windowId)

theorem covered_state_commit (snapshot : StateSnapshot) (old : Option WindowTemporalState)
    (window : WindowSnapshot) :
    (coveredState snapshot old window).lastCommitSeq =
      max ((old.map WindowTemporalState.lastCommitSeq).getD 0) window.lastCommitSeq := by
  cases old with
  | none =>
    simp only [coveredState, seedWindow, Option.map_none, Option.getD_none, Nat.zero_max]
    split <;> rfl
  | some existing =>
    simp only [coveredState, Option.map_some, Option.getD_some]
    split
    · next advanced =>
      change window.lastCommitSeq = _
      omega
    · omega

theorem covered_state_flags (snapshot : StateSnapshot) (old : Option WindowTemporalState)
    (window : WindowSnapshot) :
    (coveredState snapshot old window).geometry = some window.geometry ∧
      (coveredState snapshot old window).stateUncertain = true := by
  cases old with
  | none => exact ⟨rfl, rfl⟩
  | some existing => exact ⟨rfl, rfl⟩

theorem cover_window_spec (snapshot : StateSnapshot) (work : Reconciliation)
    (window : WindowSnapshot) :
    (coverWindow snapshot work window).windows =
        work.windows.insert window.windowId
          (coveredState snapshot work.windows[window.windowId]? window) ∧
      (coverWindow snapshot work window).synthetic =
        work.synthetic ++ (coverEvent snapshot work.windows window).toList := by
  unfold coverWindow coverEvent coveredState trackedCommit
  cases found : work.windows[window.windowId]? with
  | none => exact ⟨rfl, rfl⟩
  | some existing =>
    refine ⟨rfl, ?_⟩
    simp only [Option.map_some]
    split <;> simp

private theorem cover_event_other {windows : WindowMap WindowTemporalState}
    {inserted : WindowId} (value : WindowTemporalState) (snapshot : StateSnapshot)
    {window : WindowSnapshot} (other : inserted ≠ window.windowId) :
    coverEvent snapshot (windows.insert inserted value) window =
      coverEvent snapshot windows window := by
  simp [coverEvent, trackedCommit, insert_lookup, other]

/-- With distinct ids every window of the snapshot is reconciled against the old table. -/
private theorem cover_all_spec (snapshot : StateSnapshot) (windows : List WindowSnapshot)
    (distinct : (windows.map WindowSnapshot.windowId).Nodup) (work : Reconciliation) :
    (∀ windowId : WindowId, windowId ∉ windows.map WindowSnapshot.windowId →
        (windows.foldl (coverWindow snapshot) work).windows[windowId]? =
          work.windows[windowId]?) ∧
      (∀ window ∈ windows,
        (windows.foldl (coverWindow snapshot) work).windows[window.windowId]? =
          some (coveredState snapshot work.windows[window.windowId]? window)) ∧
      (windows.foldl (coverWindow snapshot) work).synthetic =
        work.synthetic ++ windows.filterMap (coverEvent snapshot work.windows) := by
  induction windows generalizing work with
  | nil => simp
  | cons head rest ih =>
    rw [List.map_cons, List.nodup_cons] at distinct
    obtain ⟨headNew, restDistinct⟩ := distinct
    obtain ⟨tableEq, syntheticEq⟩ := cover_window_spec snapshot work head
    obtain ⟨others, covered, synthetic⟩ := ih restDistinct (coverWindow snapshot work head)
    have headId : ∀ window ∈ rest, head.windowId ≠ window.windowId := by
      intro window member same
      exact headNew (same ▸ List.mem_map_of_mem member)
    refine ⟨?_, ?_, ?_⟩
    · intro windowId absent
      rw [List.map_cons, List.mem_cons, not_or] at absent
      rw [List.foldl_cons, others windowId absent.2, tableEq, insert_lookup,
        if_neg (Ne.symm absent.1)]
    · intro window member
      rcases List.mem_cons.mp member with rfl | later
      · rw [List.foldl_cons, others window.windowId headNew, tableEq, insert_lookup, if_pos rfl]
      · rw [List.foldl_cons, covered window later, tableEq, insert_lookup,
          if_neg (headId window later)]
    · have unchanged : rest.filterMap (coverEvent snapshot (coverWindow snapshot work head).windows) =
          rest.filterMap (coverEvent snapshot work.windows) := by
        refine List.filterMap_congr fun window member => ?_
        rw [tableEq]
        exact cover_event_other _ snapshot (headId window member)
      rw [List.foldl_cons, synthetic, syntheticEq, unchanged, List.append_assoc]
      cases found : coverEvent snapshot work.windows head <;> simp [found]

theorem remove_all_spec (snapshot : StateSnapshot) (gone : List WindowId)
    (work : Reconciliation) :
    (∀ windowId : WindowId, (gone.foldl (removeWindow snapshot) work).windows[windowId]? =
        if windowId ∈ gone then none else work.windows[windowId]?) ∧
      (gone.foldl (removeWindow snapshot) work).synthetic =
        work.synthetic ++ gone.map (fun windowId =>
          syntheticEvent snapshot windowId .destroyed) := by
  induction gone generalizing work with
  | nil => simp
  | cons head rest ih =>
    obtain ⟨table, synthetic⟩ := ih (removeWindow snapshot work head)
    refine ⟨?_, ?_⟩
    · intro windowId
      rw [List.foldl_cons, table windowId]
      simp only [removeWindow, erase_lookup, List.mem_cons]
      by_cases same : windowId = head
      · subst same
        simp
      · simp [same, Ne.symm same]
    · rw [List.foldl_cons, synthetic]
      simp [removeWindow]

/-- Covering inserts snapshot ids only, so the windows to remove are those of the old table. -/
private theorem gone_of_covered (snapshot : StateSnapshot)
    (distinct : snapshot.windowIds.Nodup) (work : Reconciliation) :
    goneWindows (snapshot.windows.foldl (coverWindow snapshot) work).windows snapshot =
      goneWindows work.windows snapshot := by
  obtain ⟨others, _, _⟩ := cover_all_spec snapshot snapshot.windows distinct work
  refine ascending_ext (Std.ExtTreeMap.ordered_keys.filter _)
    (Std.ExtTreeMap.ordered_keys.filter _) fun windowId => ?_
  simp only [goneWindows, List.mem_filter, Bool.not_eq_true', List.contains_eq_mem,
    decide_eq_false_iff_not, Std.ExtTreeMap.mem_keys, Std.ExtTreeMap.mem_iff_isSome_getElem?]
  constructor
  · rintro ⟨known, absent⟩
    rw [others windowId absent] at known
    exact ⟨known, absent⟩
  · rintro ⟨known, absent⟩
    rw [← others windowId absent] at known
    exact ⟨known, absent⟩

theorem mem_gone_windows {windows : WindowMap WindowTemporalState} {snapshot : StateSnapshot}
    {windowId : WindowId} :
    windowId ∈ goneWindows windows snapshot ↔
      (trackedCommit windows windowId).isSome = true ∧ windowId ∉ snapshot.windowIds := by
  simp [goneWindows, trackedCommit]

/-- What a resync that is not stale makes of the window table, and the events it synthesizes:
creations and commits in snapshot order, then destructions in ascending order. -/
theorem reconcile_spec (windows : WindowMap WindowTemporalState) (snapshot : StateSnapshot)
    (distinct : snapshot.windowIds.Nodup) (report : ResyncReport) :
    (∀ windowId : WindowId, windowId ∉ snapshot.windowIds →
        (reconcile windows snapshot report).windows[windowId]? = none) ∧
      (∀ window ∈ snapshot.windows,
        (reconcile windows snapshot report).windows[window.windowId]? =
          some (coveredState snapshot windows[window.windowId]? window)) ∧
      (reconcile windows snapshot report).synthetic =
        snapshot.windows.filterMap (coverEvent snapshot windows) ++
          (goneWindows windows snapshot).map (fun windowId =>
            syntheticEvent snapshot windowId .destroyed) := by
  have gone := gone_of_covered snapshot distinct ⟨windows, [], report⟩
  obtain ⟨others, covered, synthetic⟩ :=
    cover_all_spec snapshot snapshot.windows distinct ⟨windows, [], report⟩
  obtain ⟨table, destroyed⟩ := remove_all_spec snapshot (goneWindows windows snapshot)
    (snapshot.windows.foldl (coverWindow snapshot) ⟨windows, [], report⟩)
  have unfolded : reconcile windows snapshot report =
      (goneWindows windows snapshot).foldl (removeWindow snapshot)
        (snapshot.windows.foldl (coverWindow snapshot) ⟨windows, [], report⟩) := by
    rw [← gone]
    rfl
  rw [unfolded]
  refine ⟨?_, ?_, ?_⟩
  · intro windowId absent
    rw [table windowId]
    split
    · rfl
    · next kept =>
      rw [others windowId absent]
      have untracked : ¬ (trackedCommit windows windowId).isSome = true :=
        fun known => kept (mem_gone_windows.mpr ⟨known, absent⟩)
      simpa [trackedCommit] using untracked
  · intro window member
    have named : window.windowId ∈ snapshot.windowIds := List.mem_map_of_mem member
    rw [table window.windowId, if_neg fun gone => (mem_gone_windows.mp gone).2 named,
      covered window member]
  · rw [destroyed, synthetic, List.nil_append]

private theorem cover_all_tracked (snapshot : StateSnapshot) (windows : List WindowSnapshot)
    (work : Reconciliation) (windowId : WindowId) :
    (trackedCommit (windows.foldl (coverWindow snapshot) work).windows windowId).isSome = true ↔
      (trackedCommit work.windows windowId).isSome = true ∨
        windowId ∈ windows.map WindowSnapshot.windowId := by
  induction windows generalizing work with
  | nil => simp
  | cons head rest ih =>
    rw [List.foldl_cons, ih, (cover_window_spec snapshot work head).1, List.map_cons,
      List.mem_cons]
    by_cases same : head.windowId = windowId
    · subst same
      simp [trackedCommit]
    · simp [trackedCommit, insert_lookup, same, Ne.symm same]

private theorem reconcile_tracked (windows : WindowMap WindowTemporalState)
    (snapshot : StateSnapshot) (report : ResyncReport) (windowId : WindowId) :
    (trackedCommit (reconcile windows snapshot report).windows windowId).isSome = true ↔
      windowId ∈ snapshot.windowIds := by
  have covered := cover_all_tracked snapshot snapshot.windows ⟨windows, [], report⟩ windowId
  obtain ⟨table, _⟩ := remove_all_spec snapshot
    (goneWindows (snapshot.windows.foldl (coverWindow snapshot) ⟨windows, [], report⟩).windows
      snapshot)
    (snapshot.windows.foldl (coverWindow snapshot) ⟨windows, [], report⟩)
  change (Option.map WindowTemporalState.lastCommitSeq _).isSome = true ↔ _
  rw [Option.isSome_map]
  change ((List.foldl (removeWindow snapshot) _ (goneWindows _ snapshot)).windows[windowId]?).isSome
    = true ↔ _
  rw [table windowId]
  by_cases named : windowId ∈ snapshot.windowIds
  · rw [if_neg fun gone => (mem_gone_windows.mp gone).2 named]
    rw [trackedCommit, Option.isSome_map] at covered
    exact ⟨fun _ => named, fun _ => covered.mpr (Or.inr named)⟩
  · refine ⟨fun found => ?_, fun inside => absurd inside named⟩
    split at found
    · cases found
    · next kept =>
      refine absurd (mem_gone_windows.mpr ⟨?_, named⟩) kept
      rw [trackedCommit, Option.isSome_map]
      exact found

/-- After a resync that is not stale exactly the windows of the snapshot are tracked. -/
theorem resync_section_tracked {state : ServiceState} {snapshot : StateSnapshot}
    (fresh : ¬ staleSnapshot state snapshot) (windowId : WindowId) :
    Tracked (resyncSection state snapshot).1 windowId ↔ windowId ∈ snapshot.windowIds := by
  unfold Tracked resyncSection
  rw [if_neg fresh]
  exact reconcile_tracked ..

/-- A resync that is not stale empties the journal of everything at or below the snapshot and
leaves the newest synthetic events. -/
theorem resync_section_journal {state : ServiceState} {snapshot : StateSnapshot}
    (fresh : ¬ staleSnapshot state snapshot)
    (below : ∀ event ∈ state.journal.buf, event.seq ≤ state.watermark) :
    (resyncSection state snapshot).1.journal.buf =
      (syntheticEvents state snapshot).rtake state.journal.capacity := by
  have reached : state.watermark ≤ snapshot.seq := Nat.le_of_not_lt fresh
  have emptied := prune_through_covers fun event member =>
    (below event member).trans reached
  unfold resyncSection
  rw [if_neg fresh, push_all_buf, emptied, List.nil_append, prune_through_capacity]

theorem resync_section_watermark {state : ServiceState} {snapshot : StateSnapshot}
    (fresh : ¬ staleSnapshot state snapshot) :
    (resyncSection state snapshot).1.watermark = snapshot.seq := by
  have reached : state.watermark ≤ snapshot.seq := Nat.le_of_not_lt fresh
  unfold resyncSection
  rw [if_neg fresh]
  exact Nat.max_eq_right reached

/-- Every synthetic event carries the sequence of its snapshot. -/
theorem synthetic_events_seq (state : ServiceState) {snapshot : StateSnapshot}
    {event : CountedEvent} (member : event ∈ syntheticEvents state snapshot) :
    event.seq = snapshot.seq := by
  have covering : ∀ (windows : List WindowSnapshot) (work : Reconciliation),
      (∀ event ∈ work.synthetic, event.seq = snapshot.seq) →
      ∀ event ∈ (windows.foldl (coverWindow snapshot) work).synthetic,
        event.seq = snapshot.seq := by
    intro windows
    induction windows with
    | nil => exact fun work old => old
    | cons head rest ih =>
      intro work old
      refine ih _ fun event member => ?_
      rw [(cover_window_spec snapshot work head).2, List.mem_append] at member
      rcases member with earlier | new
      · exact old event earlier
      · unfold coverEvent at new
        split at new
        · simp only [Option.toList_some, List.mem_singleton] at new
          rw [new]
          rfl
        · split at new
          · simp only [Option.toList_some, List.mem_singleton] at new
            rw [new]
            rfl
          · simp at new
  unfold syntheticEvents reconciliation reconcile at member
  rw [(remove_all_spec ..).2, List.mem_append] at member
  rcases member with covered | destroyed
  · exact covering snapshot.windows _ (by simp) event covered
  · obtain ⟨windowId, _, rfl⟩ := List.mem_map.mp destroyed
    rfl

end ADesk.Observer.Resync
