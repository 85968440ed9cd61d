/- ADesk/Foundation/KeyedLog
   digest: Bounded buffers over a growing keyed log, and cursors that scan the log in batches. -/

import ADesk.Foundation.LogCut
import Mathlib.Data.List.DropRight

set_option autoImplicit false

namespace ADesk.Foundation.KeyedLog

open scoped List

universe u

variable {β : Type u}

/-! ## Bounded buffers -/

/-- Appends one item and drops the oldest when the buffer is over its capacity. -/
def pushBounded (capacity : ℕ) (buffer : List β) (item : β) : List β :=
  if capacity < (buffer ++ [item]).length then (buffer ++ [item]).tail else buffer ++ [item]

/-- A requested capacity is rounded up to one item. -/
theorem capacity_positive (requested : ℕ) : 0 < max requested 1 :=
  Nat.lt_of_lt_of_le Nat.one_pos (Nat.le_max_right requested 1)

theorem push_bounded_suffix {capacity : ℕ} {buffer log : List β} (suffix : buffer <:+ log)
    (item : β) : pushBounded capacity buffer item <:+ log ++ [item] := by
  have extended : buffer ++ [item] <:+ log ++ [item] := by
    obtain ⟨older, split⟩ := suffix
    exact ⟨older, by rw [← split, List.append_assoc]⟩
  unfold pushBounded
  split
  · exact (List.tail_suffix _).trans extended
  · exact extended

theorem push_bounded_length {capacity : ℕ} {buffer : List β}
    (fits : buffer.length ≤ capacity) (item : β) :
    (pushBounded capacity buffer item).length ≤ capacity := by
  unfold pushBounded
  split
  · simp only [List.length_tail, List.length_append, List.length_singleton]
    omega
  · omega

theorem mem_of_mem_push_bounded {capacity : ℕ} {buffer : List β} {item other : β}
    (member : other ∈ pushBounded capacity buffer item) : other ∈ buffer ∨ other = item := by
  unfold pushBounded at member
  split at member
  · simpa using List.mem_of_mem_tail member
  · simpa using member

private theorem push_bounded_rtake {capacity : ℕ} (buffer : List β) (item : β)
    (fits : buffer.length ≤ capacity) :
    pushBounded capacity buffer item = (buffer ++ [item]).rtake capacity := by
  unfold pushBounded List.rtake
  split
  · next tooLong =>
    have full : (buffer ++ [item]).length - capacity = 1 := by
      simp only [List.length_append, List.length_singleton] at tooLong ⊢
      omega
    rw [full, List.drop_one]
  · next under =>
    have room : (buffer ++ [item]).length - capacity = 0 := by omega
    rw [room, List.drop_zero]

/-- Pushing a whole list leaves the newest `capacity` items. -/
theorem foldl_push_bounded {capacity : ℕ} (items : List β) {buffer : List β}
    (fits : buffer.length ≤ capacity) :
    items.foldl (pushBounded capacity) buffer = (buffer ++ items).rtake capacity := by
  induction items generalizing buffer with
  | nil =>
    have room : buffer.length - capacity = 0 := by omega
    simp [List.rtake, room]
  | cons item rest ih =>
    rw [List.foldl_cons, ih (push_bounded_length fits item),
      push_bounded_rtake buffer item fits]
    simp only [List.rtake, List.length_append, List.length_drop, List.length_cons,
      List.length_nil]
    rw [← List.drop_append_of_le_length (by simp), List.drop_drop, List.append_assoc,
      List.singleton_append]
    congr 1
    omega

/-- The part of the log that a suffix buffer no longer holds. -/
def evicted (log buffer : List β) : List β := log.take (log.length - buffer.length)

theorem evicted_append {log buffer : List β} (suffix : buffer <:+ log) :
    evicted log buffer ++ buffer = log := by
  obtain ⟨older, rfl⟩ := suffix
  simp [evicted]

/-! ## Keys and cursors -/

variable (key : β → ℕ)

/-- The items whose key exceeds the bound, in log order. -/
def newer (bound : ℕ) (log : List β) : List β := log.filter (fun item => bound < key item)

/-- Keys strictly increase along the log. -/
def Ascending (log : List β) : Prop := log.Pairwise (fun a b => key a < key b)

/-- The cursor after a batch: the greatest key scanned so far. -/
def advance (cursor : ℕ) (batch : List β) : ℕ :=
  batch.foldl (fun reached item => max reached (key item)) cursor

variable {key}

@[simp] theorem newer_nil (bound : ℕ) : newer key bound [] = [] := rfl

theorem newer_append (bound : ℕ) (first second : List β) :
    newer key bound (first ++ second) = newer key bound first ++ newer key bound second :=
  List.filter_append ..

theorem mem_newer {bound : ℕ} {log : List β} {item : β} :
    item ∈ newer key bound log ↔ item ∈ log ∧ bound < key item := by
  simp [newer]

theorem newer_eq_nil {bound : ℕ} {log : List β} :
    newer key bound log = [] ↔ ∀ item ∈ log, key item ≤ bound := by
  simp [newer, List.filter_eq_nil_iff]

theorem newer_sublist (bound : ℕ) (log : List β) : newer key bound log <+ log :=
  List.filter_sublist

/-- Eviction of items at or below the bound is invisible above the bound. -/
theorem newer_of_evicted_le {bound : ℕ} {log buffer : List β} (suffix : buffer <:+ log)
    (old : ∀ item ∈ evicted log buffer, key item ≤ bound) :
    newer key bound buffer = newer key bound log := by
  conv_rhs => rw [← evicted_append suffix, newer_append, newer_eq_nil.mpr old, List.nil_append]

theorem cursor_le_advance (cursor : ℕ) (batch : List β) : cursor ≤ advance key cursor batch := by
  induction batch generalizing cursor with
  | nil => exact Nat.le_refl _
  | cons item rest ih => exact (Nat.le_max_left _ _).trans (ih _)

theorem key_le_advance {cursor : ℕ} {batch : List β} {item : β} (member : item ∈ batch) :
    key item ≤ advance key cursor batch := by
  induction batch generalizing cursor with
  | nil => cases member
  | cons head rest ih =>
    rcases List.mem_cons.mp member with rfl | later
    · exact (Nat.le_max_right _ _).trans (cursor_le_advance _ rest)
    · exact ih later

theorem advance_attained (cursor : ℕ) (batch : List β) :
    advance key cursor batch = cursor ∨ ∃ item ∈ batch, key item = advance key cursor batch := by
  induction batch generalizing cursor with
  | nil => exact Or.inl rfl
  | cons head rest ih =>
    rcases ih (max cursor (key head)) with same | ⟨item, member, attained⟩
    · change advance key (max cursor (key head)) rest = cursor ∨ _
      rcases Nat.le_total cursor (key head) with below | above
      · refine Or.inr ⟨head, List.mem_cons_self, ?_⟩
        change key head = advance key (max cursor (key head)) rest
        rw [same, Nat.max_eq_right below]
      · exact Or.inl (by rw [same, Nat.max_eq_left above])
    · exact Or.inr ⟨item, List.mem_cons_of_mem head member, attained⟩

/-- Everything above the cursor has been scanned once the cursor advanced over it. -/
theorem newer_advance (cursor : ℕ) (log : List β) :
    newer key (advance key cursor (newer key cursor log)) log = [] := by
  refine newer_eq_nil.mpr fun item member => ?_
  rcases Nat.lt_or_ge cursor (key item) with above | below
  · exact key_le_advance (mem_newer.mpr ⟨member, above⟩)
  · exact below.trans (cursor_le_advance _ _)

/-- What a cursor that started at `low` has scanned of an ascending log: the items above `low`
split into those seen and those still above the cursor. -/
structure Scanned (key : β → ℕ) (low cursor : ℕ) (seen log : List β) : Prop where
  split : newer key low log = seen ++ newer key cursor log
  lower : low ≤ cursor
  attained : cursor = low ∨ ∃ item ∈ log, key item = cursor

theorem Scanned.initial (low : ℕ) (log : List β) : Scanned key low low [] log :=
  ⟨rfl, Nat.le_refl low, Or.inl rfl⟩

/-- A later item of an ascending log is above the cursor exactly when it is above the start. -/
theorem Scanned.append {low cursor : ℕ} {seen log : List β} {item : β}
    (scanned : Scanned key low cursor seen log) (ascending : Ascending key (log ++ [item])) :
    Scanned key low cursor seen (log ++ [item]) := by
  have above : low < key item ↔ cursor < key item := by
    rcases scanned.attained with rfl | ⟨reached, member, rfl⟩
    · rfl
    · have later : key reached < key item :=
        (List.pairwise_append.mp ascending).2.2 reached member item List.mem_cons_self
      have lower := scanned.lower
      constructor <;> intro _ <;> omega
  have last : newer key low [item] = newer key cursor [item] := by
    simp only [newer, List.filter_cons, List.filter_nil, decide_eq_true_eq, above]
  refine ⟨?_, scanned.lower, ?_⟩
  · rw [newer_append, newer_append, scanned.split, last, List.append_assoc]
  · rcases scanned.attained with start | ⟨reached, member, attained⟩
    · exact Or.inl start
    · exact Or.inr ⟨reached, List.mem_append_left _ member, attained⟩

/-- One scan consumes exactly what is above the cursor. -/
theorem Scanned.scan {low cursor : ℕ} {seen log : List β}
    (scanned : Scanned key low cursor seen log) :
    Scanned key low (advance key cursor (newer key cursor log))
      (seen ++ newer key cursor log) log := by
  refine ⟨?_, scanned.lower.trans (cursor_le_advance _ _), ?_⟩
  · rw [newer_advance, List.append_nil]
    exact scanned.split
  · rcases advance_attained cursor (newer key cursor log) with same | ⟨item, member, attained⟩
    · rw [same]
      exact scanned.attained
    · exact Or.inr ⟨item, (mem_newer.mp member).1, attained⟩

/-- After a scan nothing is left above the cursor, so the seen items are all items above `low`. -/
theorem Scanned.complete {low cursor : ℕ} {seen log : List β}
    (scanned : Scanned key low cursor seen log) (drained : newer key cursor log = []) :
    seen = newer key low log := by
  rw [scanned.split, drained, List.append_nil]

/-! ## Windows of an ascending log -/

/-- The items above `low` up to `high`, in log order. -/
def between (key : β → ℕ) (low high : ℕ) (log : List β) : List β :=
  (newer key low log).filter (fun item => key item ≤ high)

theorem mem_between {low high : ℕ} {log : List β} {item : β} :
    item ∈ between key low high log ↔ item ∈ log ∧ low < key item ∧ key item ≤ high := by
  unfold between
  rw [List.mem_filter, mem_newer, decide_eq_true_iff, and_assoc]

theorem between_append (low high : ℕ) (first second : List β) :
    between key low high (first ++ second) =
      between key low high first ++ between key low high second := by
  unfold between
  rw [newer_append, List.filter_append]

theorem between_eq_nil {low high : ℕ} {log : List β}
    (outside : ∀ item ∈ log, key item ≤ low ∨ high < key item) :
    between key low high log = [] := by
  refine List.eq_nil_iff_forall_not_mem.mpr fun item member => ?_
  obtain ⟨inside, above, below⟩ := mem_between.mp member
  rcases outside item inside with early | late <;> omega

theorem between_self (low : ℕ) (log : List β) : between key low low log = [] :=
  between_eq_nil fun item _ => Nat.lt_or_ge low (key item) |>.symm

/-- When the log ends at or below `high`, the window is all that is above `low`. -/
theorem between_of_bounded {low high : ℕ} {log : List β}
    (bounded : ∀ item ∈ log, key item ≤ high) : between key low high log = newer key low log :=
  List.filter_eq_self.mpr fun item member => decide_eq_true (bounded item (mem_newer.mp member).1)

/-- Adjacent windows of an ascending log join. -/
theorem between_join {low mid high : ℕ} {log : List β} (ascending : Ascending key log)
    (lower : low ≤ mid) (upper : mid ≤ high) :
    between key low mid log ++ between key mid high log = between key low high log := by
  induction log with
  | nil => rfl
  | cons head rest ih =>
    obtain ⟨above, restAscending⟩ := List.pairwise_cons.mp ascending
    have joined := ih restAscending
    have split : ∀ first last, between key first last (head :: rest) =
        between key first last [head] ++ between key first last rest :=
      fun first last => between_append first last [head] rest
    rw [split low mid, split mid high, split low high, ← joined]
    rcases Nat.lt_or_ge mid (key head) with past | before
    · have none : between key low mid (head :: rest) = [] := by
        refine between_eq_nil fun item member => ?_
        rcases List.mem_cons.mp member with rfl | later
        · exact Or.inr past
        · exact Or.inr (past.trans (above item later))
      rw [split low mid, List.append_eq_nil_iff] at none
      rw [none.1, none.2]
      have same : between key mid high [head] = between key low high [head] := by
        have lowAlso : low < key head := by omega
        simp [between, newer, past, lowAlso]
      rw [same]
      rfl
    · have none : between key mid high [head] = [] := by
        refine between_eq_nil fun item member => ?_
        rw [List.mem_singleton.mp member]
        exact Or.inl before
      have same : between key low mid [head] = between key low high [head] := by
        have highAlso : key head ≤ high := before.trans upper
        by_cases past : low < key head <;> simp [between, newer, past, before, highAlso]
      rw [none, same, List.nil_append, List.append_assoc]

/-- A full batch of the oldest items is the window up to its last item. -/
theorem take_eq_between {low count : ℕ} {log : List β} {last : β} (ascending : Ascending key log)
    (ends : ((newer key low log).take count).getLast? = some last) :
    ((newer key low log).take count) = between key low (key last) log := by
  have sorted : Ascending key (newer key low log) :=
    List.Pairwise.sublist (newer_sublist low log) ascending
  have parts := List.take_append_drop count (newer key low log)
  rw [← parts] at sorted
  obtain ⟨front, _, across⟩ := List.pairwise_append.mp sorted
  obtain ⟨earlier, batch⟩ := List.getLast?_eq_some_iff.mp ends
  unfold between
  conv_rhs => rw [← parts]
  rw [List.filter_append]
  have early : ((newer key low log).take count).filter (fun item => key item ≤ key last) =
      (newer key low log).take count := by
    refine List.filter_eq_self.mpr fun item member => decide_eq_true ?_
    rw [batch] at member front
    rcases List.mem_append.mp member with before | atEnd
    · exact ((List.pairwise_append.mp front).2.2 item before last List.mem_cons_self).le
    · rw [List.mem_singleton.mp atEnd]
  have late : ((newer key low log).drop count).filter (fun item => key item ≤ key last) = [] := by
    refine List.filter_eq_nil_iff.mpr fun item member => ?_
    have after := across last (List.mem_of_getLast? ends) item member
    simpa using after
  rw [early, late, List.append_nil]

/-! ## Presence by the last relevant entry -/

/-- Some entry introduces the subject and no later one drops it. -/
def Present (introduces drops : β → Prop) (log : List β) : Prop :=
  ∃ before entry after, log = before ++ entry :: after ∧ introduces entry ∧
    ∀ later ∈ after, ¬ drops later

theorem not_present_nil (introduces drops : β → Prop) : ¬ Present introduces drops [] := by
  rintro ⟨before, entry, after, empty, _⟩
  simp at empty

/-- The last entry decides, unless it is irrelevant. -/
theorem present_append {introduces drops : β → Prop} {log : List β} {last : β} :
    Present introduces drops (log ++ [last]) ↔
      introduces last ∨ (Present introduces drops log ∧ ¬ drops last) := by
  constructor
  · rintro ⟨before, entry, after, split, introduced, kept⟩
    rcases LogCut.split_append split with ⟨_, _, rfl⟩ | ⟨earlier, rfl, rest⟩
    · exact Or.inl introduced
    · refine Or.inr ⟨⟨before, entry, earlier, rest, introduced, fun later member => ?_⟩, ?_⟩
      · exact kept later (List.mem_append_left _ member)
      · exact kept last (List.mem_append_right _ List.mem_cons_self)
  · rintro (introduced | ⟨⟨before, entry, after, rfl, introduced, kept⟩, keeps⟩)
    · exact ⟨log, last, [], rfl, introduced, fun later member => by cases member⟩
    · refine ⟨before, entry, after ++ [last], by simp, introduced, fun later member => ?_⟩
      rcases List.mem_append.mp member with old | new
      · exact kept later old
      · rw [List.mem_singleton.mp new]
        exact keeps

/-- Keeping the items of one segment, of a log without repetitions, keeps nothing else. -/
theorem filter_segment {before segment after : List β} [DecidableEq β]
    (distinct : (before ++ (segment ++ after)).Nodup) (wanted : β → Bool) :
    (before ++ (segment ++ after)).filter (fun item => wanted item && decide (item ∈ segment)) =
      segment.filter wanted := by
  obtain ⟨_, rest, outside⟩ := List.nodup_append.mp distinct
  obtain ⟨_, _, apart⟩ := List.nodup_append.mp rest
  have absentBefore : before.filter (fun item => wanted item && decide (item ∈ segment)) = [] := by
    refine List.filter_eq_nil_iff.mpr fun item member kept => ?_
    simp only [Bool.and_eq_true, decide_eq_true_eq] at kept
    exact outside item member item (List.mem_append_left _ kept.2) rfl
  have absentAfter : after.filter (fun item => wanted item && decide (item ∈ segment)) = [] := by
    refine List.filter_eq_nil_iff.mpr fun item member kept => ?_
    simp only [Bool.and_eq_true, decide_eq_true_eq] at kept
    exact apart item kept.2 item member rfl
  rw [List.filter_append, List.filter_append, absentBefore, absentAfter, List.nil_append,
    List.append_nil]
  refine List.filter_congr fun item member => ?_
  simp [member]

/-- A filter leaves the first items of a log in place exactly when it keeps all of them. -/
theorem take_filter_eq_take_iff (wanted : β → Bool) (count : ℕ) (log : List β) :
    (log.filter wanted).take count = log.take count ↔
      ∀ item ∈ log.take count, wanted item = true := by
  constructor
  · intro same item member
    rw [← same] at member
    exact (List.mem_filter.mp (List.mem_of_mem_take member)).2
  · intro all
    have head : (log.take count).filter wanted = log.take count := List.filter_eq_self.mpr all
    conv_lhs => rw [← List.take_append_drop count log, List.filter_append, head]
    rcases Nat.le_total count log.length with long | short
    · rw [List.take_append_of_le_length (by simp [long]), List.take_take, Nat.min_self]
    · rw [List.drop_of_length_le short, List.filter_nil, List.append_nil, List.take_take,
        Nat.min_self]

end ADesk.Foundation.KeyedLog
