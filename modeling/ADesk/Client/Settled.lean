/- ADesk/Client/Settled
   digest: A call of request completes at most once, with its own response or the error that ended
   it, and once a closing is under way every call completes on every fair run. -/

import ADesk.Client.Completion
import ADesk.Foundation.Fairness

set_option autoImplicit false

namespace ADesk.Client.Settled

open ADesk.Client.Completion
open ADesk.Client.Fanout (eventChannelCapacity)
open ADesk.Client.Transport
open ADesk.Foundation.Entries
open ADesk.Foundation.Execution
open ADesk.Foundation.Fairness

universe u v

variable {ε : Type u} {Value : Type v}
variable {s after : Connection Value ε} {index : ℕ} {request : Request Value}
variable {capacity : ℕ} {fits : Value → Bool} {label : Label Value ε}

/-! ## What a step does to a request -/

/-- How many steps of its own a call has left at most. -/
def remaining : Stage Value → ℕ
  | .called => 8
  | .checked => 7
  | .encoded _ => 6
  | .registered _ => 5
  | .queued _ => 4
  | .withdrawing _ => 3
  | .refused _ _ => 2
  | .awaiting _ => 2
  | .failing => 1
  | .completed _ => 0

/-- Neither the call nor its sender has met a closing. -/
structure Calm (request : Request Value) : Prop where
  notFailing : request.stage ≠ .failing
  notWithdrawing : ∀ id, request.stage ≠ .withdrawing id
  notRefused : ∀ id, request.stage ≠ .refused id false
  notDropped : request.slot ≠ .dropped

/-- The calls that do not encode. -/
def Unencodable (request : Request Value) (error : ClientError) : Prop :=
  ∃ message, (request.encoding = .badParams message ∨ request.encoding = .badFrame message) ∧
    error = .protocol message

/-- What a call completes with by its own next step. -/
def Comes (s : Connection Value ε) (request : Request Value) : Completion Value → Prop
  | .answered id result => request.slot = .sent id result
  | .failed error =>
    (request.stage = .failing ∧ error = s.closeError) ∨
      ((∃ id, request.stage = .refused id true) ∧ error = .closed) ∨ Unencodable request error

/-- One step of a call: everything but its stage, its id and its places in the tables stays. -/
structure Moved (s : Connection Value ε) (index : ℕ) (request changed : Request Value)
    (after : Connection Value ε) : Prop where
  requests : after.requests = s.requests.set index changed
  hub : after.hub = s.hub
  subscribes : changed.subscribes = request.subscribes
  stream : changed.stream = request.stream
  answeredAt : changed.answeredAt = request.answeredAt
  shrinks : remaining changed.stage < remaining request.stage
  slot : changed.slot = request.slot
  closers : after.closers = s.closers
  closed : after.closed = s.closed
  nextId : s.nextId ≤ after.nextId
  responses : after.responses = s.responses
  broken : Broken after → Broken s
  calm : s.closed = false → ¬ Broken s → Calm request → Calm changed
  full : ∀ id, changed.stage = .refused id true → outboundQueueCapacity ≤ s.queue.length
  comes : ∀ completion, changed.stage = .completed completion → Comes s request completion

theorem Calm.moves {changed : Request Value} (calm : Calm request)
    (slot : changed.slot = request.slot) (stage : changed.stage ≠ .failing)
    (staying : ∀ id, changed.stage ≠ .withdrawing id)
    (taken : ∀ id, changed.stage ≠ .refused id false) : Calm changed :=
  ⟨stage, staying, taken, slot ▸ calm.notDropped⟩

/-- A call moves to its next stage; of the connection only the tables of the requests change. -/
theorem moved_into {stage : Stage Value} {id : Option ℕ} {pending : AList (fun _ : ℕ => ℕ)}
    {nextId : ℕ} {queue : List ℕ} (shrinks : remaining stage < remaining request.stage)
    (nextIdGrows : s.nextId ≤ nextId)
    (calm : s.closed = false → ¬ Broken s → Calm request →
      Calm { request with stage := stage, id := id })
    (full : ∀ id, stage = .refused id true → outboundQueueCapacity ≤ s.queue.length)
    (comes : ∀ completion, stage = .completed completion → Comes s request completion) :
    ∃ changed, Moved s index request changed
      { s.put index { request with stage := stage, id := id } with
        pending := pending, nextId := nextId, queue := queue } :=
  ⟨{ request with stage := stage, id := id },
    { requests := rfl
      hub := rfl
      subscribes := rfl
      stream := rfl
      answeredAt := rfl
      shrinks := shrinks
      slot := rfl
      closers := rfl
      closed := rfl
      nextId := nextIdGrows
      responses := rfl
      broken := fun broken => broken
      calm := calm
      full := full
      comes := comes }⟩

theorem advance_moves (taken : s.advance index request = some after) :
    ∃ changed, Moved s index request changed after := by
  unfold Connection.advance at taken
  cases stage : request.stage with
  | called =>
    simp only [stage, Option.some.injEq] at taken
    subst taken
    refine moved_into ?_ (Nat.le_refl _) ?_ ?_ ?_
    · rw [stage]
      cases s.closed <;> simp [remaining]
    · intro open' _ calm
      exact calm.moves rfl (by simp [open']) (by simp [open']) (by simp [open'])
    · intro id
      cases s.closed <;> simp
    · intro completion
      cases s.closed <;> simp
  | checked =>
    simp only [stage] at taken
    cases encoding : request.encoding with
    | badParams message =>
      simp only [encoding, Option.some.injEq] at taken
      rw [← encoding] at taken
      subst taken
      refine moved_into (by simp [stage, remaining]) (Nat.le_refl _)
        (fun _ _ calm => calm.moves rfl (by simp) (by simp) (by simp)) (by simp) ?_
      intro completion same
      obtain rfl := Stage.completed.inj same
      exact Or.inr (Or.inr ⟨message, Or.inl encoding, rfl⟩)
    | badFrame message =>
      simp only [encoding, Option.some.injEq] at taken
      rw [← encoding] at taken
      subst taken
      refine moved_into (by simp [stage, remaining]) (Nat.le_succ _)
        (fun _ _ calm => calm.moves rfl (by simp) (by simp) (by simp)) (by simp) ?_
      intro completion same
      obtain rfl := Stage.completed.inj same
      exact Or.inr (Or.inr ⟨message, Or.inr encoding, rfl⟩)
    | encodes =>
      simp only [encoding, Option.some.injEq] at taken
      rw [← encoding] at taken
      subst taken
      exact moved_into (by simp [stage, remaining]) (Nat.le_succ _)
        (fun _ _ calm => calm.moves rfl (by simp) (by simp) (by simp)) (by simp) (by simp)
  | encoded id =>
    simp only [stage, Option.some.injEq] at taken
    subst taken
    exact moved_into (by simp [stage, remaining]) (Nat.le_refl _)
      (fun _ _ calm => calm.moves rfl (by simp) (by simp) (by simp)) (by simp) (by simp)
  | registered id =>
    simp only [stage] at taken
    split at taken
    · split at taken
      · obtain rfl := (Option.some.inj taken).symm
        exact moved_into (by simp [stage, remaining]) (Nat.le_refl _)
          (fun _ _ calm => calm.moves rfl (by simp) (by simp) (by simp)) (by simp) (by simp)
      · next full =>
        obtain rfl := (Option.some.inj taken).symm
        exact moved_into (by simp [stage, remaining]) (Nat.le_refl _)
          (fun _ _ calm => calm.moves rfl (by simp) (by simp) (by simp))
          (fun _ _ => Nat.le_of_not_lt full) (by simp)
    · next shut =>
      obtain rfl := (Option.some.inj taken).symm
      refine moved_into (by simp [stage, remaining]) (Nat.le_refl _) ?_ (by simp) (by simp)
      intro _ sound
      refine absurd ?_ sound
      by_cases there : s.outbound = true
      · have ended : s.writer = .ended := by
          by_contra still
          exact shut (by simp [there, still])
        exact Or.inr (Or.inl ended)
      · exact Or.inl (Bool.not_eq_true _ ▸ there)
  | refused id full =>
    simp only [stage, Option.some.injEq] at taken
    subst taken
    cases full with
    | true =>
      refine moved_into (by simp [stage, remaining]) (Nat.le_refl _)
        (fun _ _ calm => calm.moves rfl (by simp) (by simp) (by simp)) (by simp) ?_
      intro completion same
      obtain rfl := Stage.completed.inj same
      exact Or.inr (Or.inl ⟨⟨id, stage⟩, rfl⟩)
    | false =>
      exact moved_into (by simp [stage, remaining]) (Nat.le_refl _)
        (fun _ _ calm => absurd stage (calm.notRefused id)) (by simp) (by simp)
  | queued id =>
    simp only [stage, Option.some.injEq] at taken
    subst taken
    refine moved_into ?_ (Nat.le_refl _) ?_ ?_ ?_
    · rw [stage]
      cases s.closed <;> simp [remaining]
    · intro open' _ calm
      exact calm.moves rfl (by simp [open']) (by simp [open']) (by simp [open'])
    · intro other
      cases s.closed <;> simp
    · intro completion
      cases s.closed <;> simp
  | withdrawing id =>
    simp only [stage] at taken
    split at taken
    · obtain rfl := (Option.some.inj taken).symm
      exact moved_into (by simp [stage, remaining]) (Nat.le_refl _)
        (fun _ _ calm => absurd stage (calm.notWithdrawing id)) (by simp) (by simp)
    · obtain rfl := (Option.some.inj taken).symm
      exact moved_into (by simp [stage, remaining]) (Nat.le_refl _)
        (fun _ _ calm => absurd stage (calm.notWithdrawing id)) (by simp) (by simp)
  | awaiting id =>
    simp only [stage] at taken
    cases slot : request.slot with
    | unset => simp only [slot, reduceCtorEq] at taken
    | sent response result =>
      simp only [slot, Option.some.injEq] at taken
      rw [← slot] at taken
      subst taken
      refine moved_into (by simp [stage, remaining]) (Nat.le_refl _)
        (fun _ _ calm => calm.moves rfl (by simp) (by simp) (by simp)) (by simp) ?_
      intro completion same
      obtain rfl := Stage.completed.inj same
      exact slot
    | dropped =>
      simp only [slot, Option.some.injEq] at taken
      rw [← slot] at taken
      subst taken
      exact moved_into (by simp [stage, remaining]) (Nat.le_refl _)
        (fun _ _ calm => absurd slot calm.notDropped) (by simp) (by simp)
  | failing =>
    simp only [stage, Option.some.injEq] at taken
    subst taken
    refine moved_into (by simp [stage, remaining]) (Nat.le_refl _)
      (fun _ _ calm => absurd stage calm.notFailing) (by simp) ?_
    intro completion same
    obtain rfl := Stage.completed.inj same
    exact Or.inl ⟨stage, rfl⟩
  | completed completion => simp only [stage, reduceCtorEq] at taken

/-- A closer on its way: where its next step takes it. -/
def Connection.nextClosing (s : Connection Value ε) : Closing → Closing
  | .settingReason _ => .settingClosed
  | .settingClosed => .draining
  | .draining => .dropping (s.pending.entries.map Sigma.snd)
  | .dropping (_ :: held) => .dropping held
  | .dropping [] => .endingEvents
  | .endingEvents => .finished
  | .finished => .finished

theorem closer_sets {closer : ℕ} {closing : Closing}
    (taken : s.advanceCloser closer closing = some after) :
    after.closers = s.closers.set closer (Connection.nextClosing s closing) ∧
      (after.requests = s.requests ∨ ∃ first, hasDrained closing = true ∧
        after.requests = s.requests.modify first dropSender) := by
  unfold Connection.advanceCloser at taken
  cases closing with
  | settingReason reason => exact Option.some.inj taken ▸ ⟨rfl, Or.inl rfl⟩
  | settingClosed => exact Option.some.inj taken ▸ ⟨rfl, Or.inl rfl⟩
  | draining => exact Option.some.inj taken ▸ ⟨rfl, Or.inl rfl⟩
  | dropping held =>
    cases held with
    | nil => exact Option.some.inj taken ▸ ⟨rfl, Or.inl rfl⟩
    | cons first rest => exact Option.some.inj taken ▸ ⟨rfl, Or.inr ⟨first, rfl, rfl⟩⟩
  | endingEvents =>
    simp only at taken
    split at taken
    · exact Option.some.inj taken ▸ ⟨rfl, Or.inl rfl⟩
    · cases taken
  | finished => cases taken

theorem register_sets (taken : s.register fits index request = some after) :
    ∃ stream, after.requests = s.requests.set index { request with stream := stream } ∧
      after.closers = s.closers ∧ after.closed = s.closed ∧ (Broken after → Broken s) := by
  unfold Connection.register at taken
  split at taken
  · split at taken
    · obtain ⟨hub, _, rfl⟩ := Option.map_eq_some_iff.mp taken
      exact ⟨_, rfl, rfl, rfl, fun broken => broken⟩
    · cases taken
  · cases taken

theorem resolve_sets (s : Connection Value ε) (id : ℕ) (result : Except ServerError Value) :
    (s.resolve id result).closers = s.closers ∧ (s.resolve id result).closed = s.closed ∧
      (Broken (s.resolve id result) → Broken s) ∧
      ((s.resolve id result).requests = s.requests ∨
        ∃ holder answeredAt, (s.resolve id result).requests = s.requests.modify holder
          fun request => { request with slot := .sent id result, answeredAt := answeredAt }) := by
  unfold Connection.resolve
  split
  · exact ⟨rfl, rfl, fun broken => broken, Or.inr ⟨_, _, rfl⟩⟩
  · exact ⟨rfl, rfl, fun broken => broken, Or.inl rfl⟩

/-- Everything a step may do to one request: it leaves its stage alone, or it is the next step of
that call. A slot once set stays set. -/
theorem step_request (taken : step capacity fits s label = some after)
    (present : s.requests[index]? = some request) :
    ∃ changed, after.requests[index]? = some changed ∧
      (changed.stage = request.stage ∨
        (label = .advance index ∧ Moved s index request changed after)) ∧
      (request.slot ≠ .unset → changed.slot ≠ .unset) := by
  have untouched : after.requests = s.requests → ∃ changed, after.requests[index]? = some changed ∧
      (changed.stage = request.stage ∨
        (label = .advance index ∧ Moved s index request changed after)) ∧
      (request.slot ≠ .unset → changed.slot ≠ .unset) := fun same =>
    ⟨request, same ▸ present, Or.inl rfl, fun set => set⟩
  -- The slot of one request is set; its stage is left alone.
  have reslotted : ∀ (holder : ℕ) (change : Request Value → Request Value),
      after.requests = s.requests.modify holder change →
      (∀ request, (change request).stage = request.stage ∧ (change request).slot ≠ .unset) →
      ∃ changed, after.requests[index]? = some changed ∧
        (changed.stage = request.stage ∨
          (label = .advance index ∧ Moved s index request changed after)) ∧
        (request.slot ≠ .unset → changed.slot ≠ .unset) := by
    intro holder change same sets
    by_cases here : holder = index
    · subst here
      refine ⟨change request, ?_, Or.inl (sets request).1, fun _ => (sets request).2⟩
      rw [same, List.getElem?_modify_eq, present]
      rfl
    · refine ⟨request, ?_, Or.inl rfl, fun set => set⟩
      rw [same, List.getElem?_modify]
      simp [here, present]
  cases step_effect taken with
  | call encoding subscribes same =>
    exact ⟨request, same ▸ (append_entry _ _ index request).mpr (Or.inl present), Or.inl rfl,
      fun set => set⟩
  | advance mover moving there moved =>
    obtain ⟨changed, effect⟩ := advance_moves moved
    by_cases here : mover = index
    · subst here
      obtain rfl : moving = request := Option.some.inj (there.symm.trans present)
      refine ⟨changed, ?_, Or.inr ⟨rfl, effect⟩, fun set => effect.slot ▸ set⟩
      rw [effect.requests]
      exact (set_entry present mover changed).mpr (Or.inl ⟨rfl, rfl⟩)
    · refine ⟨request, ?_, Or.inl rfl, fun set => set⟩
      rw [effect.requests]
      exact (set_entry there index request).mpr (Or.inr ⟨Ne.symm here, present⟩)
  | register registrant registering there moved =>
    obtain ⟨stream, requests, _⟩ := register_sets moved
    by_cases here : registrant = index
    · subst here
      obtain rfl : registering = request := Option.some.inj (there.symm.trans present)
      refine ⟨{ registering with stream := stream }, ?_, Or.inl rfl, fun set => set⟩
      rw [requests]
      exact (set_entry present registrant _).mpr (Or.inl ⟨rfl, rfl⟩)
    · refine ⟨request, ?_, Or.inl rfl, fun set => set⟩
      rw [requests]
      exact (set_entry there index request).mpr (Or.inr ⟨Ne.symm here, present⟩)
  | advanceCloser closer closing _ moved =>
    rcases (closer_sets moved).2 with same | ⟨first, _, same⟩
    · exact untouched same
    · exact reslotted first dropSender same fun _ => ⟨rfl, by simp [dropSender]⟩
  | respond id result _ same =>
    subst same
    rcases (resolve_sets s id result).2.2.2 with kept | ⟨holder, answeredAt, set⟩
    · exact untouched kept
    · exact reslotted holder _ set fun _ => ⟨rfl, by simp⟩
  | quiet _ quiet => exact untouched quiet.requests

/-- A closer moves by its own steps only. -/
theorem step_closer {closer : ℕ} {closing : Closing}
    (taken : step capacity fits s label = some after)
    (present : s.closers[closer]? = some closing) :
    after.closers[closer]? = some closing ∨
      (label = .advanceCloser closer ∧
        after.closers[closer]? = some (Connection.nextClosing s closing)) := by
  cases step_effect taken with
  | call encoding subscribes same => exact Or.inl (same ▸ present)
  | advance mover moving there moved =>
    obtain ⟨changed, effect⟩ := advance_moves moved
    exact Or.inl (effect.closers ▸ present)
  | register registrant registering there moved =>
    obtain ⟨_, _, closers, _⟩ := register_sets moved
    exact Or.inl (closers ▸ present)
  | advanceCloser mover moving there moved =>
    have sets := (closer_sets moved).1
    by_cases here : mover = closer
    · subst here
      obtain rfl : moving = closing := Option.some.inj (there.symm.trans present)
      exact Or.inr ⟨rfl, sets ▸ (set_entry present mover _).mpr (Or.inl ⟨rfl, rfl⟩)⟩
    · exact Or.inl (sets ▸ (set_entry there closer closing).mpr (Or.inr ⟨Ne.symm here, present⟩))
  | respond id result _ same =>
    subst same
    exact Or.inl ((resolve_sets s id result).1 ▸ present)
  | quiet _ quiet =>
    rcases quiet.closers with same | ⟨reason, more⟩
    · exact Or.inl (same ▸ present)
    · exact Or.inl (more ▸ (append_entry _ _ closer closing).mpr (Or.inl present))

/-! ## Before any closing -/

/-- Nothing has met a closing as long as none was started. -/
structure Live (s : Connection Value ε) : Prop where
  closed : s.closed = false
  sound : ¬ Broken s
  calm : ∀ (index : ℕ) (request : Request Value), s.requests[index]? = some request → Calm request

theorem not_broken_of {s after : Connection Value ε} (sound : ¬ Broken s)
    (broken : Broken after → Broken s) : ¬ Broken after := fun holds => sound (broken holds)

theorem live_connect : Live (Connection.connect : Connection Value ε) where
  closed := rfl
  sound broken := by
    rcases broken with gone | ended | ⟨closer, closing⟩
    · cases gone
    · cases ended
    · cases closing
  calm index request present := by simp [Connection.connect] at present

theorem live_step (live : s.closers = [] → Live s)
    (taken : step capacity fits s label = some after) (none' : after.closers = []) :
    Live after := by
  cases step_effect taken with
  | call encoding subscribes same =>
    subst same
    obtain ⟨closed, sound, calm⟩ := live none'
    refine ⟨closed, sound, fun index request found => ?_⟩
    rcases (append_entry _ _ index request).mp found with kept | ⟨_, rfl⟩
    · exact calm index request kept
    · exact ⟨by simp [Request.called], by simp [Request.called], by simp [Request.called],
        by simp [Request.called]⟩
  | advance mover moving there moved =>
    obtain ⟨changed, effect⟩ := advance_moves moved
    obtain ⟨closed, sound, calm⟩ := live (effect.closers ▸ none')
    refine ⟨effect.closed.trans closed, not_broken_of sound effect.broken,
      fun index request found => ?_⟩
    rw [effect.requests] at found
    rcases (set_entry there index request).mp found with ⟨_, rfl⟩ | ⟨_, kept⟩
    · exact effect.calm closed sound (calm mover moving there)
    · exact calm index request kept
  | register registrant registering there moved =>
    obtain ⟨stream, requests, closers, shut, broken⟩ := register_sets moved
    obtain ⟨closed, sound, calm⟩ := live (closers ▸ none')
    refine ⟨shut.trans closed, not_broken_of sound broken, fun index request found => ?_⟩
    rw [requests] at found
    rcases (set_entry there index request).mp found with ⟨_, rfl⟩ | ⟨_, kept⟩
    · obtain ⟨failing, withdrawing, refused, dropped⟩ := calm registrant registering there
      exact ⟨failing, withdrawing, refused, dropped⟩
    · exact calm index request kept
  | advanceCloser closer closing present moved =>
    rw [(closer_sets moved).1, List.set_eq_nil_iff] at none'
    rw [none'] at present
    cases present
  | respond id result _ same =>
    subst same
    obtain ⟨closers, shut, broken, requests⟩ := resolve_sets s id result
    obtain ⟨closed, sound, calm⟩ := live (closers ▸ none')
    refine ⟨shut.trans closed, not_broken_of sound broken, fun index request found => ?_⟩
    rcases requests with same | ⟨holder, answeredAt, set⟩
    · exact calm index request (same ▸ found)
    · rw [set, List.getElem?_modify] at found
      obtain ⟨before, present, rfl⟩ := Option.map_eq_some_iff.mp found
      obtain ⟨failing, withdrawing, refused, dropped⟩ := calm index before present
      split
      · exact ⟨failing, withdrawing, refused, by simp⟩
      · exact ⟨failing, withdrawing, refused, dropped⟩
  | quiet _ quiet =>
    rcases quiet.closers with same | ⟨reason, more⟩
    · obtain ⟨closed, sound, calm⟩ := live (same ▸ none')
      refine ⟨quiet.closed.trans closed, ?_, fun index request found => ?_⟩
      · intro broken
        rcases quiet.broken broken with before | some'
        · exact sound before
        · exact some' none'
      · exact calm index request (quiet.requests ▸ found)
    · rw [more] at none'
      simp at none'

theorem live_of_reachable {allowed : Connection Value ε → Label Value ε → Prop}
    (reached : Reachable (machine ε capacity fits) allowed s) (none' : s.closers = []) : Live s := by
  have kept : Inductive (machine ε capacity fits) allowed fun s => s.closers = [] → Live s :=
    { start := fun _ => live_connect
      next := by
        intro s after label live _ taken none'
        have moved : step capacity fits s label = some after := taken
        exact live_step live moved none' }
  exact kept.holds reached none'

/-- The results a call may complete with, seen from the state before its last step: the response
carrying its own id, the error that ended the connection, the refusal of a full queue, or the error
of its own encoding. -/
def Outcome (s : Connection Value ε) (request : Request Value) : Completion Value → Prop
  | .answered id result => request.id = some id ∧ (id, result) ∈ s.responses
  | .failed error =>
    (s.closers ≠ [] ∧ error = s.closeError) ∨
      ((∃ id, request.stage = .refused id true) ∧ error = .closed) ∨ Unencodable request error

theorem outcome_of_comes {allowed : Connection Value ε → Label Value ε → Prop}
    (reached : Reachable (machine ε capacity fits) allowed s)
    (present : s.requests[index]? = some request) {completion : Completion Value}
    (comes : Comes s request completion) : Outcome s request completion := by
  cases completion with
  | answered id result =>
    exact (tracked_of_reachable reached).answered index request id result present comes
  | failed error =>
    rcases comes with ⟨failing, same⟩ | refused | unencodable
    · refine Or.inl ⟨fun none' => ?_, same⟩
      exact ((live_of_reachable reached none').calm index request present).notFailing failing
    · exact Or.inr (Or.inl refused)
    · exact Or.inr (Or.inr unencodable)

/-! ## Once a closing is under way -/

/-- The sender of the request was used or dropped. -/
def HasSlot (index : ℕ) (s : Connection Value ε) : Prop :=
  ∃ request : Request Value, s.requests[index]? = some request ∧ request.slot ≠ .unset

def Completed (index : ℕ) (s : Connection Value ε) : Prop :=
  ∃ (request : Request Value) (completion : Completion Value),
    s.requests[index]? = some request ∧ request.stage = .completed completion

variable {run : Schedule (machine ε capacity fits)} {n closer : ℕ}

theorem step_advanceCloser {closing : Closing} (present : s.closers[closer]? = some closing) :
    step capacity fits s (.advanceCloser closer) = s.advanceCloser closer closing := by
  simp only [step, present]

/-- A closer that can always take its next step takes it. -/
theorem closer_takes (fair : run.Fair (.advanceCloser closer)) {closing : Closing}
    {Goal : Connection Value ε → Prop}
    (able : ∀ s : Connection Value ε, s.advanceCloser closer closing ≠ none)
    (reaches : ∀ s t : Connection Value ε, Tracked s → s.closers[closer]? = some closing →
      s.advanceCloser closer closing = some t → Goal t)
    (present : (run.state n).closers[closer]? = some closing) : run.Later n Goal := by
  refine run.leads_to (P := fun s => Tracked s ∧ s.closers[closer]? = some closing) fair ?_ ?_ ?_
    ⟨tracked_of_reachable (run.reachable n), present⟩
  · rintro s ⟨_, there⟩
    have same : step capacity fits s (.advanceCloser closer) = _ := step_advanceCloser there
    exact fun stuck => able s (same ▸ stuck)
  · rintro s t l ⟨tracked, there⟩ taken
    have moved : step capacity fits s l = some t := taken
    rcases step_closer moved there with kept | ⟨rfl, _⟩
    · exact Or.inl ⟨tracked_step tracked moved, kept⟩
    · rw [step_advanceCloser there] at moved
      exact Or.inr (reaches s t tracked there moved)
  · rintro s t ⟨tracked, there⟩ taken
    have moved : step capacity fits s (.advanceCloser closer) = some t := taken
    rw [step_advanceCloser there] at moved
    exact reaches s t tracked there moved

theorem moved_closing {t : Connection Value ε} {closing : Closing}
    (there : s.closers[closer]? = some closing) (moved : s.advanceCloser closer closing = some t) :
    t.closers[closer]? = some (Connection.nextClosing s closing) := by
  rw [(closer_sets moved).1]
  exact (set_entry there closer _).mpr (Or.inl ⟨rfl, rfl⟩)

/-- Every run of `close_with` comes to empty the pending map. -/
theorem drained_later (fair : ∀ closer, run.Fair (.advanceCloser closer))
    (started : (run.state n).closers ≠ []) : run.Later n fun t => Drained t.closers := by
  have drains : ∀ k, (run.state k).closers[0]? = some .draining →
      run.Later k fun t => Drained t.closers := by
    intro k present
    refine closer_takes (fair 0) (fun s => by simp [Connection.advanceCloser]) ?_ present
    intro s t _ there moved
    exact ⟨_, List.mem_of_getElem? (moved_closing there moved), rfl⟩
  have closes : ∀ k, (run.state k).closers[0]? = some .settingClosed →
      run.Later k fun t => Drained t.closers := by
    intro k present
    refine Schedule.Later.trans (P := fun t => t.closers[0]? = some .draining)
      (closer_takes (fair 0) (fun s => by simp [Connection.advanceCloser]) ?_ present)
      fun later _ there => drains later there
    intro s t _ there moved
    exact moved_closing there moved
  obtain ⟨closing, rest, same⟩ := List.exists_cons_of_ne_nil started
  have present : (run.state n).closers[0]? = some closing := by
    rw [same]
    rfl
  cases closing with
  | settingReason reason =>
    refine Schedule.Later.trans (P := fun t => t.closers[0]? = some .settingClosed)
      (closer_takes (fair 0) (fun s => by simp [Connection.advanceCloser]) ?_ present)
      fun later _ there => closes later there
    intro s t _ there moved
    exact moved_closing there moved
  | settingClosed => exact closes n present
  | draining => exact drains n present
  | dropping held => exact .now ⟨_, List.mem_of_getElem? present, rfl⟩
  | endingEvents => exact .now ⟨_, List.mem_of_getElem? present, rfl⟩
  | finished => exact .now ⟨_, List.mem_of_getElem? present, rfl⟩

/-- A closer drops every sender it holds. -/
theorem slot_later (fair : run.Fair (.advanceCloser closer)) {held : List ℕ}
    (member : index ∈ held) (present : (run.state n).closers[closer]? = some (.dropping held)) :
    run.Later n (HasSlot index) := by
  induction held generalizing n with
  | nil => cases member
  | cons first rest ih =>
    have drops : run.Later n fun t =>
        HasSlot first t ∧ t.closers[closer]? = some (.dropping rest) := by
      refine closer_takes fair (fun s => by simp [Connection.advanceCloser]) ?_ present
      intro s t tracked there moved
      refine ⟨?_, moved_closing there moved⟩
      obtain ⟨_, request, found, _⟩ :=
        tracked.held first ⟨_, List.mem_of_getElem? there, List.mem_cons_self⟩
      obtain rfl := (Option.some.inj moved).symm
      exact ⟨dropSender request, (modify_entry dropSender found first _).mpr (Or.inl ⟨rfl, rfl⟩),
        by simp [dropSender]⟩
    refine drops.trans fun later _ reached => ?_
    rcases List.mem_cons.mp member with rfl | inside
    · exact .now reached.1
    · exact ih inside reached.2

/-- A call that waits for nobody. -/
def Movable (request : Request Value) : Prop :=
  remaining request.stage ≠ 0 ∧ ∀ id, request.stage = .awaiting id → request.slot ≠ .unset

theorem movable_advances (movable : Movable request) : s.advance index request ≠ none := by
  obtain ⟨left, answered⟩ := movable
  unfold Connection.advance
  cases stage : request.stage with
  | checked => cases request.encoding <;> simp
  | registered id =>
    simp only
    split
    · split <;> simp
    · simp
  | withdrawing id =>
    simp only
    split <;> simp
  | awaiting id =>
    cases slot : request.slot with
    | unset => exact absurd slot (answered id stage)
    | sent response result => simp
    | dropped => simp
  | completed completion =>
    rw [stage] at left
    exact absurd rfl left
  | called => simp
  | encoded id => simp
  | refused id full => simp
  | queued id => simp
  | failing => simp

/-- Its stage has moved on. -/
def Further (index bound : ℕ) (s : Connection Value ε) : Prop :=
  ∃ request : Request Value, s.requests[index]? = some request ∧ remaining request.stage < bound

theorem movable_moves (fair : run.Fair (.advance index)) (movable : Movable request)
    (present : (run.state n).requests[index]? = some request) :
    run.Later n (Further index (remaining request.stage)) := by
  refine run.leads_to (P := fun s => ∃ changed : Request Value,
    s.requests[index]? = some changed ∧ changed.stage = request.stage ∧ Movable changed) fair
    ?_ ?_ ?_ ⟨request, present, rfl, movable⟩
  · rintro s ⟨changed, there, _, able⟩ stuck
    have same : step capacity fits s (.advance index) = none := stuck
    simp only [step, there] at same
    exact movable_advances able same
  · rintro s t l ⟨changed, there, same, able⟩ taken
    obtain ⟨new, found, kept | ⟨rfl, effect⟩, slot⟩ := step_request taken there
    · refine Or.inl ⟨new, found, kept.trans same, kept ▸ able.1, fun id waits => ?_⟩
      exact slot (able.2 id (kept ▸ waits))
    · exact Or.inr ⟨new, found, same ▸ effect.shrinks⟩
  · rintro s t ⟨changed, there, same, able⟩ taken
    have moved : step capacity fits s (.advance index) = some t := taken
    simp only [step, there] at moved
    obtain ⟨new, effect⟩ := advance_moves moved
    refine ⟨new, ?_, same ▸ effect.shrinks⟩
    rw [effect.requests]
    exact (set_entry there index new).mpr (Or.inl ⟨rfl, rfl⟩)

/-- After a drain a waiting call has its sender used, dropped, or in the hands of a closer. -/
theorem movable_or_held (tracked : Tracked s) (drained : Drained s.closers)
    (present : s.requests[index]? = some request) (left : remaining request.stage ≠ 0) :
    Movable request ∨ Held s.closers index := by
  by_cases waits : ∃ id, request.stage = .awaiting id ∧ request.slot = .unset
  · obtain ⟨id, stage, unset⟩ := waits
    have enrolled : enrolled request.stage = some id := by rw [stage]; rfl
    rcases tracked.located index request id present enrolled with ⟨_, _, sent⟩ | dropped | entry |
      held
    · rw [unset] at sent
      cases sent
    · rw [unset] at dropped
      cases dropped
    · exact absurd drained (tracked.waiting index request id present stage entry)
    · exact Or.inr held
  · exact Or.inl ⟨left, fun id stage unset => waits ⟨id, stage, unset⟩⟩

theorem drained_stays (taken : step capacity fits s label = some after)
    (drained : Drained s.closers) : Drained after.closers := by
  obtain ⟨closing, inside, past⟩ := drained
  obtain ⟨closer, present⟩ := List.mem_iff_getElem?.mp inside
  rcases step_closer taken present with kept | ⟨_, moved⟩
  · exact ⟨closing, List.mem_of_getElem? kept, past⟩
  · refine ⟨_, List.mem_of_getElem? moved, ?_⟩
    cases closing with
    | settingReason reason => cases past
    | settingClosed => cases past
    | draining => cases past
    | dropping held => cases held <;> rfl
    | endingEvents => rfl
    | finished => rfl

theorem remaining_stays {bound : ℕ} (taken : step capacity fits s label = some after)
    (before : ∃ request : Request Value, s.requests[index]? = some request ∧
      remaining request.stage ≤ bound) :
    ∃ request : Request Value, after.requests[index]? = some request ∧
      remaining request.stage ≤ bound := by
  obtain ⟨request, present, most⟩ := before
  obtain ⟨changed, found, kept | ⟨_, effect⟩, _⟩ := step_request taken present
  · exact ⟨changed, found, kept ▸ most⟩
  · exact ⟨changed, found, Nat.le_trans (Nat.le_of_lt effect.shrinks) most⟩

/-- After a drain every call that is not completed moves on. -/
theorem further_later (calls : ∀ index, run.Fair (.advance index))
    (closers : ∀ closer, run.Fair (.advanceCloser closer)) (drained : Drained (run.state n).closers)
    (present : (run.state n).requests[index]? = some request) (left : remaining request.stage ≠ 0) :
    run.Later n (Further index (remaining request.stage)) := by
  rcases movable_or_held (tracked_of_reachable (run.reachable n)) drained present left with
    movable | ⟨held, there, member⟩
  · exact movable_moves (calls index) movable present
  · obtain ⟨closer, found⟩ := List.mem_iff_getElem?.mp there
    refine (slot_later (closers closer) member found).trans fun later after ready => ?_
    have bounded : ∃ changed : Request Value, (run.state later).requests[index]? = some changed ∧
        remaining changed.stage ≤ remaining request.stage :=
      run.stays (P := fun s => ∃ changed : Request Value, s.requests[index]? = some changed ∧
        remaining changed.stage ≤ remaining request.stage)
        (fun before taken => remaining_stays taken before) after ⟨request, present, Nat.le_refl _⟩
    obtain ⟨changed, now, most⟩ := bounded
    rcases Nat.lt_or_eq_of_le most with less | same
    · exact .now ⟨changed, now, less⟩
    · obtain ⟨other, alike, slot⟩ := ready
      obtain rfl : other = changed := Option.some.inj (alike.symm.trans now)
      rw [← same]
      exact movable_moves (calls index) ⟨same ▸ left, fun _ _ => slot⟩ now

/-- Once a closing is under way, every call completes. -/
theorem completed_later (calls : ∀ index, run.Fair (.advance index))
    (closers : ∀ closer, run.Fair (.advanceCloser closer))
    (started : (run.state n).closers ≠ []) (present : index < (run.state n).requests.length) :
    run.Later n (Completed index) := by
  refine (drained_later closers started).trans fun k after drained => ?_
  have listed : ∃ request : Request Value, (run.state k).requests[index]? = some request := by
    refine run.stays (P := fun s => ∃ request : Request Value, s.requests[index]? = some request)
      ?_ after ⟨_, List.getElem?_eq_getElem present⟩
    rintro s t l ⟨request, there⟩ taken
    obtain ⟨changed, found, _⟩ := step_request taken there
    exact ⟨changed, found⟩
  refine run.descends (P := fun s => Drained s.closers ∧
    ∃ request : Request Value, s.requests[index]? = some request)
    (fun s => (s.requests[index]?).elim 0 fun request => remaining request.stage) ?_
    ⟨drained, listed⟩
  rintro m ⟨past, request, there⟩
  by_cases left : remaining request.stage = 0
  · refine .now (Or.inl ?_)
    cases stage : request.stage with
    | completed completion => exact ⟨request, completion, there, stage⟩
    | _ =>
      rw [stage] at left
      cases left
  · refine (further_later calls closers past there left).trans fun later since moved => .now ?_
    obtain ⟨changed, found, less⟩ := moved
    refine Or.inr ⟨⟨?_, changed, found⟩, ?_⟩
    · exact run.stays (P := fun s => Drained s.closers)
        (fun kept taken => drained_stays taken kept) since past
    · simpa [found, there] using less

/-- For every interleaving of calls, reader, writer and closers: a completed call keeps its result,
one that completes does so with an outcome of its own, only a full queue refuses a call, and no two
calls share an id; and once a run of `close_with` has begun, every call completes if the calls and
the closers take their steps. -/
theorem requests_complete_once (capacity : ℕ) (fits : Value → Bool) :
    (∀ (s after : Connection Value ε) (label : Label Value ε),
      Reachable (machine ε capacity fits) anyStep s → step capacity fits s label = some after →
      ∀ (index : ℕ) (request : Request Value), s.requests[index]? = some request →
        ∃ changed, after.requests[index]? = some changed ∧
          (∀ completion, request.stage = .completed completion →
            changed.stage = .completed completion) ∧
          (∀ completion, changed.stage = .completed completion →
            request.stage = .completed completion ∨ Outcome s request completion) ∧
          (∀ id, changed.stage = .refused id true →
            request.stage = .refused id true ∨ outboundQueueCapacity ≤ s.queue.length)) ∧
    (∀ s : Connection Value ε, Reachable (machine ε capacity fits) anyStep s →
      ∀ (first second : ℕ) (one other : Request Value) (id : ℕ),
        s.requests[first]? = some one → s.requests[second]? = some other →
          one.id = some id → other.id = some id → first = second) ∧
    (∀ run : Schedule (machine ε capacity fits),
      (∀ index, run.Fair (.advance index)) → (∀ closer, run.Fair (.advanceCloser closer)) →
      ∀ n index, (run.state n).closers ≠ [] → index < (run.state n).requests.length →
        run.Later n (Completed index)) := by
  refine ⟨?_, ?_, ?_⟩
  · intro s after label reached taken index request present
    obtain ⟨changed, found, moves, _⟩ := step_request taken present
    refine ⟨changed, found, ?_, ?_, ?_⟩
    · intro completion settled
      rcases moves with same | ⟨_, moved⟩
      · exact same.trans settled
      · have less := moved.shrinks
        rw [settled] at less
        exact absurd less (Nat.not_lt_zero _)
    · intro completion comes
      rcases moves with same | ⟨_, moved⟩
      · exact Or.inl (same.symm.trans comes)
      · exact Or.inr (outcome_of_comes reached present (moved.comes completion comes))
    · intro id refused
      rcases moves with same | ⟨_, moved⟩
      · exact Or.inl (same.symm.trans refused)
      · exact Or.inr (moved.full id refused)
  · intro s reached
    exact (tracked_of_reachable reached).distinct
  · intro run calls closers n index started present
    exact completed_later calls closers started present

/-- A call under way while the connection closes. -/
def closesUnderWay : List (Label ℕ ℕ) :=
  [.call .encodes false, .advance 0, .advance 0, .advance 0, .advance 0, .advance 0, .close,
    .advanceCloser 0, .advanceCloser 0, .advanceCloser 0, .advanceCloser 0, .advanceCloser 0,
    .advanceCloser 0, .advance 0, .advance 0]

theorem requests_complete_once_closed :
    ∃ run : Schedule (machine ℕ eventChannelCapacity fun _ : ℕ => true),
      (∀ index, run.Fair (.advance index)) ∧ (∀ closer, run.Fair (.advanceCloser closer)) ∧
        run.Later 7 (Completed 0) := by
  let run : Schedule (machine ℕ eventChannelCapacity fun _ : ℕ => true) :=
    .resting closesUnderWay (by decide)
  have calls : ∀ index, run.Fair (.advance index) := by
    intro index
    refine Schedule.resting_fair ?_
    rcases index with _ | index
    · rfl
    · rfl
  have closers : ∀ closer, run.Fair (.advanceCloser closer) := by
    intro closer
    refine Schedule.resting_fair ?_
    rcases closer with _ | closer
    · rfl
    · rfl
  refine ⟨run, calls, closers, ?_⟩
  exact (requests_complete_once _ _).2.2 run calls closers 7 0 (by decide) (by decide)

/-- What the results would be if every call completed with its response or the close error. -/
def AnsweredOrClosed (s : Connection Value ε) (request : Request Value) : Completion Value → Prop
  | .answered id result => request.id = some id ∧ (id, result) ∈ s.responses
  | .failed error => error = .closed ∨ error = s.closeError

/-- How a scroll by a delta that is no number is refused: the delta encodes as `null`. -/
def scrollRefused : String :=
  "failed to encode request 1 (scroll): invalid params for `scroll`: invalid type: null, " ++
    "expected f64"

/-- A call that does not encode completes with that error, the connection alive. -/
theorem unencodable_call_completes :
    ¬ ∀ s : Connection ℕ ℕ, Reachable (machine ℕ eventChannelCapacity fun _ => true) anyStep s →
      ∀ (index : ℕ) (request : Request ℕ) (completion : Completion ℕ),
        s.requests[index]? = some request → request.stage = .completed completion →
          AnsweredOrClosed s request completion := by
  intro claimed
  let labels : List (Label ℕ ℕ) := [.call (.badFrame scrollRefused) false, .advance 0, .advance 0]
  have fails := claimed _ (final_state_reachable (machine ℕ eventChannelCapacity fun _ => true)
    anyStep labels (by decide)) 0 _ (.failed (.protocol scrollRefused)) rfl rfl
  rcases fails with closed | closed
  · cases closed
  · cases closed

end ADesk.Client.Settled
