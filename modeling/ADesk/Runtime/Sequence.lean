/- ADesk/Runtime/Sequence
   digest: Sequence numbers are handed out once, and a compositor event is above everything sent
   before it. -/

import ADesk.Runtime.Steps

set_option autoImplicit false

namespace ADesk.Runtime.Sequence

open ADesk.Core.Event
open ADesk.Compositor.Events
open ADesk.Compositor.State
open ADesk.Foundation.Execution
open ADesk.Wm.Policy (PolicyConfig)
open ADesk.Runtime.Run
open ADesk.Runtime.Steps

@[simp] theorem synthesis_seq (synthesis : Synthesis) (seq tsMs : ℕ) :
    (synthesis.event seq tsMs).seq = seq := by
  cases synthesis <;> rfl

@[simp] theorem synthesis_synthesized (synthesis : Synthesis) (seq tsMs : ℕ) :
    (synthesis.event seq tsMs).kind.synthesized = true := by
  cases synthesis <;> rfl

def lastSeq (s : State) : ℕ := s.compositor.events.lastSeq

/-- Where a reserved number can be before its event is published. -/
inductive Holder
  | serving
  | handler (id : ℕ)

def heldBy (s : State) : Holder → Option ℕ
  | .serving =>
    match s.serving with
    | some (_, .reserved seq) => some seq
    | _ => none
  | .handler id => (s.handlers id).bind held

/-- Every number is used at most once, and compositor events come above all earlier ones. -/
structure Numbered (s : State) : Prop where
  below : ∀ event ∈ s.log, event.seq ≤ lastSeq s
  distinct : (s.log.map RuntimeEvent.seq).Nodup
  rising : s.log.Pairwise
    (fun earlier later => later.kind.synthesized = false → earlier.seq < later.seq)
  heldBelow : ∀ holder seq, heldBy s holder = some seq →
    seq ≤ lastSeq s ∧ seq ∉ s.log.map RuntimeEvent.seq
  heldOnce : ∀ first second seq, heldBy s first = some seq → heldBy s second = some seq →
    first = second

/-- Steps that neither send nor allocate, and hand no number to another holder. -/
private theorem Numbered.keep {s t : State} (numbered : Numbered s) (log : t.log = s.log)
    (last : lastSeq t = lastSeq s)
    (kept : ∀ holder seq, heldBy t holder = some seq → heldBy s holder = some seq) :
    Numbered t where
  below := by
    rw [log, last]
    exact numbered.below
  distinct := by
    rw [log]
    exact numbered.distinct
  rising := by
    rw [log]
    exact numbered.rising
  heldBelow := by
    rw [log, last]
    exact fun holder seq holds => numbered.heldBelow holder seq (kept holder seq holds)
  heldOnce := fun first second seq one two =>
    numbered.heldOnce first second seq (kept first seq one) (kept second seq two)

/-- Replacing one handler keeps the other holders. -/
private theorem set_handler_held {s : State} {id : ℕ} {handler : Handler} {holder : Holder}
    {seq : ℕ} (holds : heldBy (s.setHandler id handler) holder = some seq) :
    (holder = .handler id ∧ held handler = some seq) ∨
      (holder ≠ .handler id ∧ heldBy s holder = some seq) := by
  cases holder with
  | serving => exact Or.inr ⟨fun same => (by cases same), holds⟩
  | handler other =>
    change (Function.update s.handlers id (some handler) other).bind held = some seq at holds
    by_cases same : other = id
    · subst same
      rw [Function.update_self] at holds
      exact Or.inl ⟨rfl, holds⟩
    · rw [Function.update_of_ne same] at holds
      exact Or.inr ⟨fun equal => same (by cases equal; rfl), holds⟩

/-- A handler that moves without a new number. -/
private theorem Numbered.handlerMoved {s base : State} {id : ℕ} {handler : Handler}
    (numbered : Numbered s) (log : base.log = s.log) (last : lastSeq base = lastSeq s)
    (kept : ∀ holder seq, heldBy base holder = some seq → heldBy s holder = some seq)
    (same : ∀ seq, held handler = some seq → heldBy s (.handler id) = some seq) :
    Numbered (base.setHandler id handler) := by
  refine numbered.keep log last fun holder seq holds => ?_
  rcases set_handler_held holds with ⟨rfl, mine⟩ | ⟨_, other⟩
  · exact same seq mine
  · exact kept holder seq other

private theorem handler_note_held (handler : Handler) (position : ℕ) :
    held (handler.noteServed position) = held handler := by
  unfold Handler.noteServed
  split <;> rfl

private theorem note_served_held (s : State) (requester : Requester) (id : ℕ) :
    (s.noteServed requester id).bind held = (s.handlers id).bind held := by
  cases requester with
  | pump => rfl
  | handler other =>
    change (Function.update s.handlers other _ id).bind held = _
    by_cases same : id = other
    · subst same
      rw [Function.update_self]
      cases s.handlers id with
      | none => rfl
      | some handler => exact handler_note_held handler _
    · rw [Function.update_of_ne same]

private theorem served_numbered {s t : State} (numbered : Numbered s) {requester : Requester}
    {command : Command} (free : s.compositorFree) (log : t.log = s.log)
    (compositor : t.compositor = (handleCommand s.compositor s.uptimeMs command).1)
    (serving : t.serving = some (requester, (handleCommand s.compositor s.uptimeMs command).2.2))
    (handlers : t.handlers = s.noteServed requester) : Numbered t := by
  have others : ∀ id, heldBy t (.handler id) = heldBy s (.handler id) := by
    intro id
    change (t.handlers id).bind held = (s.handlers id).bind held
    rw [handlers, note_served_held]
  have silent : heldBy s .serving = none := by
    simp [heldBy, free.2]
  by_cases reserving : command = .reserveSeq
  · subst reserving
    have last : lastSeq t = lastSeq s + 1 := by
      simp [lastSeq, compositor, handleCommand, EventSink.nextSeq]
    have mine : heldBy t .serving = some (lastSeq s + 1) := by
      simp [heldBy, serving, handleCommand, EventSink.nextSeq, lastSeq]
    have above : ∀ id seq, heldBy t (.handler id) = some seq → seq ≤ lastSeq s := by
      intro id seq holds
      rw [others] at holds
      exact (numbered.heldBelow _ seq holds).1
    refine ⟨?_, ?_, ?_, ?_, ?_⟩
    · rw [log, last]
      exact fun event member => Nat.le_succ_of_le (numbered.below event member)
    · rw [log]
      exact numbered.distinct
    · rw [log]
      exact numbered.rising
    · intro holder seq holds
      rw [log, last]
      cases holder with
      | serving =>
        rw [mine] at holds
        cases holds
        refine ⟨Nat.le_refl _, fun member => ?_⟩
        obtain ⟨event, inside, same⟩ := List.mem_map.mp member
        have bound := numbered.below event inside
        omega
      | handler id =>
        rw [others] at holds
        obtain ⟨bound, absent⟩ := numbered.heldBelow _ seq holds
        exact ⟨Nat.le_succ_of_le bound, absent⟩
    · intro first second seq one two
      cases first with
      | serving =>
        cases second with
        | serving => rfl
        | handler id =>
          rw [mine] at one
          cases one
          exact absurd (above id _ two) (by omega)
      | handler id =>
        cases second with
        | serving =>
          rw [mine] at two
          cases two
          exact absurd (above id _ one) (by omega)
        | handler other =>
          rw [others] at one two
          exact numbered.heldOnce _ _ seq one two
  · have unreserved : heldBy t .serving = none := by
      simp only [heldBy, serving]
      split
      · next replied =>
        simp only [Option.some.injEq, Prod.mk.injEq] at replied
        exact absurd (handle_command_reserved replied.2).1 reserving
      · rfl
    have counter := handle_command_events s.compositor s.uptimeMs reserving
    refine numbered.keep log (by simp only [lastSeq, compositor, counter]) fun holder seq holds => ?_
    cases holder with
    | serving =>
      rw [unreserved] at holds
      cases holds
    | handler id => rwa [others] at holds

private theorem emitted_numbered {s t : State} (numbered : Numbered s) {event : RuntimeEvent}
    (log : t.log = s.log ++ [event]) (last : lastSeq t = lastSeq s + 1)
    (seq : event.seq = lastSeq s + 1) (kept : ∀ holder, heldBy t holder = heldBy s holder) :
    Numbered t := by
  have fresh : ∀ earlier ∈ s.log, earlier.seq < event.seq := by
    intro earlier member
    have bound := numbered.below earlier member
    omega
  refine ⟨?_, ?_, ?_, ?_, ?_⟩
  · intro other member
    rw [log, List.mem_append, List.mem_singleton] at member
    rw [last]
    rcases member with old | rfl
    · exact Nat.le_succ_of_le (numbered.below other old)
    · exact seq.le
  · rw [log, List.map_append, List.nodup_append]
    refine ⟨numbered.distinct, List.nodup_singleton _, ?_⟩
    intro number member other new
    obtain ⟨earlier, inside, rfl⟩ := List.mem_map.mp member
    rw [List.map_singleton, List.mem_singleton] at new
    rw [new]
    exact (fresh earlier inside).ne
  · rw [log, List.pairwise_append]
    refine ⟨numbered.rising, List.pairwise_singleton _ _, ?_⟩
    intro earlier member later new _
    rw [List.mem_singleton.mp new]
    exact fresh earlier member
  · intro holder number holds
    rw [kept] at holds
    obtain ⟨bound, absent⟩ := numbered.heldBelow holder number holds
    rw [log, last]
    refine ⟨Nat.le_succ_of_le bound, ?_⟩
    rw [List.map_append, List.mem_append, List.map_singleton, List.mem_singleton]
    rintro (old | rfl)
    · exact absent old
    · omega
  · intro first second number one two
    rw [kept] at one two
    exact numbered.heldOnce first second number one two

private theorem published_numbered {s t : State} (numbered : Numbered s) (id seq : ℕ)
    {event : RuntimeEvent} (mine : heldBy s (.handler id) = some seq)
    (log : t.log = s.log ++ [event]) (last : lastSeq t = lastSeq s) (number : event.seq = seq)
    (synthesized : event.kind.synthesized = true)
    (kept : ∀ holder other, heldBy t holder = some other →
      holder ≠ .handler id ∧ heldBy s holder = some other) : Numbered t := by
  obtain ⟨bound, absent⟩ := numbered.heldBelow _ seq mine
  refine ⟨?_, ?_, ?_, ?_, ?_⟩
  · intro other member
    rw [log, List.mem_append, List.mem_singleton] at member
    rw [last]
    rcases member with old | rfl
    · exact numbered.below other old
    · exact number.trans_le bound
  · rw [log, List.map_append, List.nodup_append]
    refine ⟨numbered.distinct, List.nodup_singleton _, ?_⟩
    rintro used member other new rfl
    rw [List.map_singleton, List.mem_singleton, number] at new
    exact absent (new ▸ member)
  · rw [log, List.pairwise_append]
    refine ⟨numbered.rising, List.pairwise_singleton _ _, ?_⟩
    intro earlier _ later new native
    rw [List.mem_singleton.mp new, synthesized] at native
    cases native
  · intro holder other holds
    obtain ⟨different, older⟩ := kept holder other holds
    obtain ⟨below, unused⟩ := numbered.heldBelow holder other older
    rw [log, last]
    refine ⟨below, ?_⟩
    rw [List.map_append, List.mem_append, List.map_singleton, List.mem_singleton, number]
    rintro (old | rfl)
    · exact unused old
    · exact different (numbered.heldOnce holder _ other older mine)
  · intro first second other one two
    exact numbered.heldOnce first second other (kept first other one).2 (kept second other two).2

/-- A handler that is answered holds at most the number of the reply it takes. -/
private theorem answer_held {handler after : Handler} {reply : Reply} {next : Option Command}
    (answer : handler.answer reply = some (after, next)) {seq : ℕ}
    (holds : held after = some seq) : reply = .reserved seq := by
  unfold Handler.answer at answer
  split at answer
  · cases answer
    cases request : handler.request <;> simp [held, request] at holds
  · cases answer
    cases holds
  · cases answer
    cases holds
    rfl
  · cases answer

private theorem replied_numbered {s t : State} (numbered : Numbered s) {id : ℕ}
    {handler after : Handler} {reply : Reply} {next : Option Command}
    (serving : s.serving = some (.handler id, reply))
    (answer : handler.answer reply = some (after, next)) (log : t.log = s.log)
    (last : lastSeq t = lastSeq s) (empty : t.serving = none)
    (handlers : t.handlers = Function.update s.handlers id (some after)) : Numbered t := by
  -- The number of the reply moves from the thread to the handler.
  have moved : ∀ holder seq, heldBy t holder = some seq →
      (holder = .handler id ∧ heldBy s .serving = some seq) ∨
        (holder ≠ .handler id ∧ holder ≠ .serving ∧ heldBy s holder = some seq) := by
    intro holder seq holds
    cases holder with
    | serving =>
      simp [heldBy, empty] at holds
    | handler other =>
      change (t.handlers other).bind held = some seq at holds
      rw [handlers] at holds
      by_cases same : other = id
      · subst same
        rw [Function.update_self] at holds
        have reserved := answer_held answer holds
        exact Or.inl ⟨rfl, by simp [heldBy, serving, reserved]⟩
      · rw [Function.update_of_ne same] at holds
        exact Or.inr ⟨fun equal => same (by cases equal; rfl), (fun equal => by cases equal), holds⟩
  refine ⟨?_, ?_, ?_, ?_, ?_⟩
  · rw [log, last]
    exact numbered.below
  · rw [log]
    exact numbered.distinct
  · rw [log]
    exact numbered.rising
  · intro holder seq holds
    rw [log, last]
    rcases moved holder seq holds with ⟨_, older⟩ | ⟨_, _, older⟩
    · exact numbered.heldBelow _ seq older
    · exact numbered.heldBelow _ seq older
  · intro first second seq one two
    rcases moved first seq one with ⟨rfl, older⟩ | ⟨_, busy, older⟩ <;>
      rcases moved second seq two with ⟨rfl, older'⟩ | ⟨_, busy', older'⟩
    · rfl
    · exact absurd (numbered.heldOnce _ _ seq older' older) busy'
    · exact absurd (numbered.heldOnce _ _ seq older older') busy
    · exact numbered.heldOnce _ _ seq older older'

/-- One step keeps the numbering. -/
theorem move_numbered {s t : State} {label : Label} (numbered : Numbered s)
    (moved : Move s label t) : Numbered t := by
  have unchanged : ∀ holder seq, heldBy s holder = some seq → heldBy s holder = some seq :=
    fun _ _ holds => holds
  cases moved with
  | served requester command rest free queue =>
    exact served_numbered numbered free rfl rfl rfl rfl
  | emitted emission rest owed =>
    exact emitted_numbered numbered rfl rfl (emission_seq ..) (fun holder => by cases holder <;> rfl)
  | published id handler synthesis seq tsMs found publishing =>
    refine published_numbered numbered id seq ?_ rfl rfl (synthesis_seq ..)
      (synthesis_synthesized ..) fun holder other holds => ?_
    · simp [heldBy, found, held, publishing]
    · rcases set_handler_held holds with ⟨_, mine⟩ | older
      · cases mine
      · exact ⟨older.1, by cases holder <;> exact older.2⟩
  | replied id handler after reply next drained serving found answer =>
    exact replied_numbered numbered serving answer rfl rfl rfl rfl
  | clockRead id handler synthesis seq tsMs found reserved =>
    refine numbered.handlerMoved rfl rfl unchanged fun other holds => ?_
    cases holds
    simp [heldBy, found, held, reserved]
  | actionStepped id handler horizonAt observer found recording =>
    refine numbered.handlerMoved rfl rfl (fun holder _ holds => by cases holder <;> exact holds)
      fun other holds => ?_
    change held { handler with horizonAt := horizonAt } = some other at holds
    simp [held, recording] at holds
  | answered =>
    refine numbered.keep rfl rfl fun holder seq holds => ?_
    cases holder with
    | serving => cases holds
    | handler id => exact holds
  | synthesizing id synthesis phase command unused begins =>
    refine numbered.handlerMoved rfl rfl (fun holder _ holds => by cases holder <;> exact holds)
      fun other holds => ?_
    rcases begins with ⟨rfl, _⟩ | ⟨rfl, _⟩ <;> cases holds
  | actionBegan =>
    exact numbered.handlerMoved rfl rfl (fun holder _ holds => by cases holder <;> exact holds)
      (fun other holds => by cases holds)
  | actionRecorded =>
    exact numbered.handlerMoved rfl rfl unchanged (fun other holds => by cases holds)
  | issued =>
    exact numbered.handlerMoved rfl rfl (fun holder _ holds => by cases holder <;> exact holds)
      (fun other holds => by cases holds)
  | finished => exact numbered.handlerMoved rfl rfl unchanged (fun other holds => by cases holds)
  | refused => exact numbered.handlerMoved rfl rfl unchanged (fun other holds => by cases holds)
  | ticked | client | lagged | received | sectioned | bumped | inboxed | inboxBumped | resyncBegan
  | resyncDone | waited | inboxWaited =>
    exact numbered.keep rfl rfl (fun holder _ holds => by cases holder <;> exact holds)

theorem initial_numbered (config : PolicyConfig) (slots inboxCapacity : ℕ) :
    Numbered (State.new config slots inboxCapacity) where
  below := fun _ member => by cases member
  distinct := List.nodup_nil
  rising := List.Pairwise.nil
  heldBelow := fun holder _ holds => by cases holder <;> cases holds
  heldOnce := fun first _ _ holds => by cases first <;> cases holds

theorem numbered_of_reachable {config : PolicyConfig} {slots inboxCapacity : ℕ}
    {allowed : State → Label → Prop} {s : State}
    (reached : Reachable (machine config slots inboxCapacity) allowed s) : Numbered s :=
  Inductive.holds (P := Numbered)
    ⟨initial_numbered config slots inboxCapacity, fun {_ _ _} numbered _ taken =>
      move_numbered numbered (step_move taken)⟩ reached

end ADesk.Runtime.Sequence
