/- ADesk/Client/Lines
   digest: A request goes out on one line at most, and one that failed without an answer has no line
   out or leaves a closed connection behind. -/

import ADesk.Client.Settled

set_option autoImplicit false

namespace ADesk.Client.Lines

open ADesk.Client.Completion
open ADesk.Client.Settled
open ADesk.Client.Transport (Connection Request Stage Completion Closing CloseReason ServerError
  outboundQueueCapacity)
open ADesk.Foundation.Entries
open ADesk.Foundation.Execution

universe u v

variable {ε : Type u} {Value : Type v}

/-! ## The connection and the runtime behind it -/

structure Wire (Value : Type v) (ε : Type u) where
  connection : Connection Value ε
  -- The lines the writer has taken and the runtime has not read.
  sent : List ℕ
  -- History: the requests the runtime has read and carried out.
  served : List ℕ

def Wire.connect : Wire Value ε := ⟨.connect, [], []⟩

/-- The line that the writer takes next. -/
def head (s : Connection Value ε) : List ℕ :=
  match s.writer, s.queue with
  | .receiving, id :: _ => [id]
  | _, _ => []

inductive Label (Value : Type v) (ε : Type u)
  | transport (label : Transport.Label Value ε)
  | serve (id : ℕ)

/-- What a step of the connection puts on the wire. -/
def written (s : Connection Value ε) : Transport.Label Value ε → List ℕ
  | .recvLine => head s
  | _ => []

/-- The runtime carries out each line it reads once; a line may also be lost. -/
def step (capacity : ℕ) (fits : Value → Bool) (w : Wire Value ε) :
    Label Value ε → Option (Wire Value ε)
  | .transport label =>
    (Transport.step capacity fits w.connection label).map fun connection =>
      { w with connection := connection, sent := w.sent ++ written w.connection label }
  | .serve id =>
    if id ∈ w.sent then some { w with sent := w.sent.erase id, served := w.served ++ [id] } else none

/-- On how many lines a request is queued, sent or served. -/
def Wire.lines (w : Wire Value ε) (id : ℕ) : ℕ :=
  w.connection.queue.count id + w.sent.count id + w.served.count id

variable {w after : Wire Value ε} {s t : Connection Value ε} {index : ℕ} {request : Request Value}
variable {capacity : ℕ} {fits : Value → Bool}

theorem lines_serve {id : ℕ} (taken : step capacity fits w (.serve id) = some after) (other : ℕ) :
    after.lines other = w.lines other := by
  simp only [step] at taken
  split at taken
  · next present =>
    obtain rfl := (Option.some.inj taken).symm
    have there : 0 < w.sent.count id := List.count_pos_iff.mpr present
    by_cases same : id = other
    · subst same
      simp [Wire.lines]
      omega
    · simp [Wire.lines, List.count_erase_of_ne (Ne.symm same), same]
  · cases taken

theorem serve_keeps {id : ℕ} (taken : step capacity fits w (.serve id) = some after) :
    after.connection = w.connection := by
  simp only [step] at taken
  split at taken
  · exact Option.some.inj taken ▸ rfl
  · cases taken

/-- What a step of the connection does to the outbound queue. -/
inductive Queueing (s t : Connection Value ε) : Transport.Label Value ε → Prop
  | enqueues (index : ℕ) (request changed : Request Value) (id : ℕ)
      (present : s.requests[index]? = some request) (stage : request.stage = .registered id)
      (requests : t.requests = s.requests.set index changed) (queued : changed.stage = .queued id)
      (queue : t.queue = s.queue ++ [id]) : Queueing s t (.advance index)
  | fires (next : t.nextId = s.nextId + 1)
      (queue : t.queue = s.queue ∨ t.queue = s.queue ++ [s.nextId]) : Queueing s t .fireAndForget
  | takes (queue : s.queue = head s ++ t.queue) : Queueing s t .recvLine
  | keeps (label : Transport.Label Value ε) (nothing : written s label = [])
      (queue : t.queue = s.queue) : Queueing s t label

theorem advance_queueing (present : s.requests[index]? = some request)
    (taken : s.advance index request = some t) : Queueing s t (.advance index) := by
  unfold Connection.advance at taken
  cases stage : request.stage with
  | called =>
    simp only [stage, Option.some.injEq] at taken
    exact .keeps _ rfl (taken ▸ rfl)
  | checked =>
    simp only [stage] at taken
    cases encoding : request.encoding with
    | badParams message =>
      simp only [encoding, Option.some.injEq] at taken
      exact .keeps _ rfl (taken ▸ rfl)
    | badFrame message =>
      simp only [encoding, Option.some.injEq] at taken
      exact .keeps _ rfl (taken ▸ rfl)
    | encodes =>
      simp only [encoding, Option.some.injEq] at taken
      exact .keeps _ rfl (taken ▸ rfl)
  | encoded id =>
    simp only [stage, Option.some.injEq] at taken
    exact .keeps _ rfl (taken ▸ rfl)
  | registered id =>
    simp only [stage] at taken
    split at taken
    · split at taken
      · obtain rfl := (Option.some.inj taken).symm
        exact .enqueues index request _ id present stage rfl rfl rfl
      · exact .keeps _ rfl (Option.some.inj taken ▸ rfl)
    · exact .keeps _ rfl (Option.some.inj taken ▸ rfl)
  | refused id full =>
    simp only [stage, Option.some.injEq] at taken
    exact .keeps _ rfl (taken ▸ rfl)
  | queued id =>
    simp only [stage, Option.some.injEq] at taken
    exact .keeps _ rfl (taken ▸ rfl)
  | withdrawing id =>
    simp only [stage] at taken
    split at taken
    · exact .keeps _ rfl (Option.some.inj taken ▸ rfl)
    · exact .keeps _ rfl (Option.some.inj taken ▸ rfl)
  | awaiting id =>
    simp only [stage] at taken
    cases slot : request.slot with
    | unset => simp only [slot, reduceCtorEq] at taken
    | sent response result =>
      simp only [slot, Option.some.injEq] at taken
      exact .keeps _ rfl (taken ▸ rfl)
    | dropped =>
      simp only [slot, Option.some.injEq] at taken
      exact .keeps _ rfl (taken ▸ rfl)
  | failing =>
    simp only [stage, Option.some.injEq] at taken
    exact .keeps _ rfl (taken ▸ rfl)
  | completed completion => simp only [stage, reduceCtorEq] at taken

theorem step_queueing {label : Transport.Label Value ε}
    (taken : Transport.step capacity fits s label = some t) : Queueing s t label := by
  unfold Transport.step at taken
  cases label with
  | call encoding subscribes => exact .keeps _ rfl (Option.some.inj taken ▸ rfl)
  | advance index =>
    simp only at taken
    split at taken
    · next request present => exact advance_queueing present taken
    · cases taken
  | register index =>
    simp only at taken
    split at taken
    · unfold Connection.register at taken
      split at taken
      · split at taken
        · obtain ⟨hub, _, rfl⟩ := Option.map_eq_some_iff.mp taken
          exact .keeps _ rfl rfl
        · cases taken
      · cases taken
    · cases taken
  | fireAndForget =>
    obtain rfl := (Option.some.inj taken).symm
    refine .fires rfl ?_
    simp only
    split
    · exact Or.inr rfl
    · exact Or.inl rfl
  | close => exact .keeps _ rfl (Option.some.inj taken ▸ rfl)
  | advanceCloser closer =>
    simp only at taken
    split at taken
    · next closing _ =>
      unfold Connection.advanceCloser at taken
      cases closing with
      | settingReason reason => exact .keeps _ rfl (Option.some.inj taken ▸ rfl)
      | settingClosed => exact .keeps _ rfl (Option.some.inj taken ▸ rfl)
      | draining => exact .keeps _ rfl (Option.some.inj taken ▸ rfl)
      | dropping held => cases held <;> exact .keeps _ rfl (Option.some.inj taken ▸ rfl)
      | endingEvents =>
        simp only at taken
        split at taken
        · exact .keeps _ rfl (Option.some.inj taken ▸ rfl)
        · cases taken
      | finished => cases taken
    · cases taken
  | dropShutdown =>
    simp only at taken
    split at taken
    · exact .keeps _ rfl (Option.some.inj taken ▸ rfl)
    · cases taken
  | readLine frame =>
    simp only at taken
    split at taken
    · split at taken
      · exact .keeps _ rfl (Option.some.inj taken ▸ rfl)
      · cases taken
    · cases taken
  | readEnd error =>
    simp only at taken
    split at taken
    · split at taken
      · exact .keeps _ rfl (Option.some.inj taken ▸ rfl)
      · cases taken
    · cases taken
  | handle =>
    simp only at taken
    split at taken
    · next frame _ =>
      cases frame with
      | response id result =>
        obtain rfl := (Option.some.inj taken).symm
        refine .keeps _ rfl ?_
        unfold Connection.resolve
        split <;> rfl
      | event payload =>
        obtain ⟨hub, _, rfl⟩ := Option.map_eq_some_iff.mp taken
        exact .keeps _ rfl rfl
      | malformed error => exact .keeps _ rfl (Option.some.inj taken ▸ rfl)
    · cases taken
  | fanned =>
    simp only at taken
    split at taken
    · split at taken
      · exact .keeps _ rfl (Option.some.inj taken ▸ rfl)
      · cases taken
    · cases taken
  | seeShutdown =>
    simp only at taken
    split at taken
    · split at taken
      · cases taken
      · exact .keeps _ rfl (Option.some.inj taken ▸ rfl)
    · cases taken
  | recvLine =>
    simp only at taken
    split at taken
    · next id rest writer queue =>
      obtain rfl := (Option.some.inj taken).symm
      exact .takes (by simp [head, writer, queue])
    · next writer queue =>
      split at taken
      · cases taken
      · obtain rfl := (Option.some.inj taken).symm
        exact .takes (by simp [head, writer, queue])
    · cases taken
  | writeOk =>
    simp only at taken
    split at taken
    · exact .keeps _ rfl (Option.some.inj taken ▸ rfl)
    · cases taken
  | writeFails kind message =>
    simp only at taken
    split at taken
    · exact .keeps _ rfl (Option.some.inj taken ▸ rfl)
    · cases taken
  | endWriter =>
    simp only at taken
    split at taken
    · split at taken
      · exact .keeps _ rfl (Option.some.inj taken ▸ rfl)
      · cases taken
    · cases taken
  | fanout label =>
    simp only at taken
    split at taken
    · obtain ⟨hub, _, rfl⟩ := Option.map_eq_some_iff.mp taken
      exact .keeps _ rfl rfl
    · cases taken

/-- What a step of the connection does to the lines of the requests. -/
inductive Lining (w after : Wire Value ε) : Transport.Label Value ε → Prop
  | enqueues (index : ℕ) (request changed : Request Value) (id : ℕ)
      (present : w.connection.requests[index]? = some request)
      (stage : request.stage = .registered id)
      (requests : after.connection.requests = w.connection.requests.set index changed)
      (queued : changed.stage = .queued id)
      (more : after.lines id = w.lines id + 1)
      (others : ∀ other, other ≠ id → after.lines other = w.lines other) :
      Lining w after (.advance index)
  | fires (next : after.connection.nextId = w.connection.nextId + 1)
      (most : after.lines w.connection.nextId ≤ w.lines w.connection.nextId + 1)
      (others : ∀ other, other ≠ w.connection.nextId → after.lines other = w.lines other) :
      Lining w after .fireAndForget
  | keeps (label : Transport.Label Value ε) (same : ∀ id, after.lines id = w.lines id) :
      Lining w after label

theorem step_lining {label : Transport.Label Value ε}
    (taken : step capacity fits w (.transport label) = some after) : Lining w after label := by
  obtain ⟨connection, moved, rfl⟩ := Option.map_eq_some_iff.mp taken
  cases step_queueing moved with
  | enqueues index request changed id present stage requests queued queue =>
    refine .enqueues index request changed id present stage requests queued ?_ fun other differs => ?_
    · simp [Wire.lines, written, queue]
      omega
    · simp [Wire.lines, written, queue, Ne.symm differs]
  | fires next queue =>
    refine .fires next ?_ fun other differs => ?_
    · rcases queue with same | more
      · simp [Wire.lines, written, same]
      · simp [Wire.lines, written, more]
        omega
    · rcases queue with same | more
      · simp [Wire.lines, written, same]
      · simp [Wire.lines, written, more, Ne.symm differs]
  | takes queue =>
    refine .keeps _ fun id => ?_
    have split := congrArg (List.count id) queue
    rw [List.count_append] at split
    simp only [Wire.lines, written, List.count_append]
    omega
  | keeps _ nothing queue =>
    refine .keeps _ fun id => ?_
    simp [Wire.lines, nothing, queue]

/-! ## Where a request comes from -/

/-- What steps of others leave of a request: only a closer drops its sender. -/
structure Kept (s : Connection Value ε) (request changed : Request Value) : Prop where
  stage : changed.stage = request.stage
  id : changed.id = request.id
  slot : changed.slot = .dropped → request.slot = .dropped ∨ s.closed = true

theorem Kept.refl (request : Request Value) : Kept s request request :=
  ⟨rfl, rfl, Or.inl⟩

theorem step_origin {label : Transport.Label Value ε} {changed : Request Value}
    (tracked : Tracked s) (taken : Transport.step capacity fits s label = some t)
    (found : t.requests[index]? = some changed) :
    (∃ request, s.requests[index]? = some request ∧ (Kept s request changed ∨
      (label = .advance index ∧ s.advance index request = some t))) ∨
      (changed.stage = .called ∧ changed.id = none ∧ changed.slot = .unset) := by
  cases step_effect taken with
  | call encoding subscribes same =>
    subst same
    rcases (append_entry _ _ index changed).mp found with old | ⟨_, rfl⟩
    · exact Or.inl ⟨changed, old, Or.inl (.refl changed)⟩
    · exact Or.inr ⟨rfl, rfl, rfl⟩
  | advance mover moving there moved =>
    obtain ⟨new, effect⟩ := advance_moves moved
    by_cases here : index = mover
    · subst here
      exact Or.inl ⟨moving, there, Or.inr ⟨rfl, moved⟩⟩
    · rw [effect.requests] at found
      rcases (set_entry there index changed).mp found with ⟨same, _⟩ | ⟨_, old⟩
      · exact absurd same here
      · exact Or.inl ⟨changed, old, Or.inl (.refl changed)⟩
  | register registrant registering there moved =>
    obtain ⟨stream, requests, _⟩ := register_sets moved
    rw [requests] at found
    rcases (set_entry there index changed).mp found with ⟨same, rfl⟩ | ⟨_, old⟩
    · subst same
      exact Or.inl ⟨registering, there, Or.inl ⟨rfl, rfl, Or.inl⟩⟩
    · exact Or.inl ⟨changed, old, Or.inl (.refl changed)⟩
  | advanceCloser closer closing there moved =>
    rcases (closer_sets moved).2 with same | ⟨first, drained, same⟩
    · exact Or.inl ⟨changed, same ▸ found, Or.inl (.refl changed)⟩
    · rw [same] at found
      obtain ⟨before, present, rfl | rfl⟩ := entry_of_modify found
      · exact Or.inl ⟨changed, present, Or.inl (.refl changed)⟩
      · have shut := tracked.flagged closing (List.mem_of_getElem? there) (Or.inr drained)
        exact Or.inl ⟨before, present, Or.inl ⟨rfl, rfl, fun _ => Or.inr shut⟩⟩
  | respond id result _ same =>
    subst same
    rcases (resolve_sets s id result).2.2.2 with kept | ⟨holder, answeredAt, set⟩
    · exact Or.inl ⟨changed, kept ▸ found, Or.inl (.refl changed)⟩
    · have modified : (s.requests.modify holder fun request =>
          { request with slot := .sent id result, answeredAt := answeredAt })[index]? =
          some changed := set ▸ found
      obtain ⟨before, present, rfl | rfl⟩ := entry_of_modify modified
      · exact Or.inl ⟨changed, present, Or.inl (.refl changed)⟩
      · exact Or.inl ⟨before, present, Or.inl ⟨rfl, rfl, fun dropped => by cases dropped⟩⟩
  | quiet _ quiet => exact Or.inl ⟨changed, quiet.requests ▸ found, Or.inl (.refl changed)⟩

/-- A closed connection stays closed, and an id once drawn is never drawn again. -/
theorem step_ratchets {label : Transport.Label Value ε}
    (taken : Transport.step capacity fits s label = some t) :
    (s.closed = true → t.closed = true) ∧ s.nextId ≤ t.nextId := by
  cases step_effect taken with
  | call encoding subscribes same => exact same ▸ ⟨fun closed => closed, Nat.le_refl _⟩
  | advance mover moving there moved =>
    obtain ⟨new, effect⟩ := advance_moves moved
    exact ⟨fun closed => effect.closed.trans closed, effect.nextId⟩
  | register registrant registering there moved =>
    unfold Connection.register at moved
    split at moved
    · split at moved
      · obtain ⟨hub, _, rfl⟩ := Option.map_eq_some_iff.mp moved
        exact ⟨fun closed => closed, Nat.le_refl _⟩
      · cases moved
    · cases moved
  | advanceCloser closer closing there moved =>
    unfold Connection.advanceCloser at moved
    cases closing with
    | settingReason reason => exact Option.some.inj moved ▸ ⟨fun closed => closed, Nat.le_refl _⟩
    | settingClosed => exact Option.some.inj moved ▸ ⟨fun _ => rfl, Nat.le_refl _⟩
    | draining => exact Option.some.inj moved ▸ ⟨fun closed => closed, Nat.le_refl _⟩
    | dropping held =>
      cases held <;> exact Option.some.inj moved ▸ ⟨fun closed => closed, Nat.le_refl _⟩
    | endingEvents =>
      simp only at moved
      split at moved
      · exact Option.some.inj moved ▸ ⟨fun closed => closed, Nat.le_refl _⟩
      · cases moved
    | finished => cases moved
  | respond id result _ same =>
    subst same
    refine ⟨fun closed => (resolve_sets s id result).2.1.trans closed, ?_⟩
    unfold Connection.resolve
    split <;> exact Nat.le_refl _
  | quiet _ quiet => exact ⟨fun closed => quiet.closed.trans closed, quiet.nextId⟩

/-! ## One line for a request -/

/-- The id of a call that has not been queued, and is not about to be given up. -/
def unqueued : Stage Value → Option ℕ
  | .encoded id | .registered id | .refused id _ => some id
  | .called | .checked | .queued _ | .withdrawing _ | .awaiting _ | .failing | .completed _ => none

/-- The call has failed, or is about to. -/
def Fails (stage : Stage Value) : Prop :=
  stage = .failing ∨ ∃ error, stage = .completed (.failed error)

/-- Each request is on one line at most, and one that fails is on none or finds the connection
closed. -/
structure Sole (w : Wire Value ε) : Prop where
  once : ∀ id, w.lines id ≤ 1
  unused : ∀ id, w.connection.nextId ≤ id → w.lines id = 0
  unqueued : ∀ (index : ℕ) (request : Request Value) (id : ℕ),
    w.connection.requests[index]? = some request → unqueued request.stage = some id →
      w.lines id = 0
  withdrawn : ∀ (index : ℕ) (request : Request Value) (id : ℕ),
    w.connection.requests[index]? = some request → request.stage = .withdrawing id →
      w.connection.closed = true
  dropped : ∀ (index : ℕ) (request : Request Value),
    w.connection.requests[index]? = some request → request.slot = .dropped →
      w.connection.closed = true
  failed : ∀ (index : ℕ) (request : Request Value) (id : ℕ),
    w.connection.requests[index]? = some request → Fails request.stage → request.id = some id →
      w.lines id = 0 ∨ w.connection.closed = true

theorem Sole.connect : Sole (Wire.connect : Wire Value ε) where
  once id := by simp [Wire.connect, Wire.lines, Connection.connect]
  unused id := by simp [Wire.connect, Wire.lines, Connection.connect]
  unqueued index request id present := by simp [Wire.connect, Connection.connect] at present
  withdrawn index request id present := by simp [Wire.connect, Connection.connect] at present
  dropped index request present := by simp [Wire.connect, Connection.connect] at present
  failed index request id present := by simp [Wire.connect, Connection.connect] at present

theorem drawn_of_unqueued {stage : Stage Value} {id : ℕ} (member : unqueued stage = some id) :
    drawn stage = some id := by
  cases stage with
  | encoded _ => exact member
  | registered _ => exact member
  | refused _ _ => exact member
  | _ => cases member

/-- A step that moves no call on and leaves the lines of the drawn ids alone. -/
theorem Sole.kept (sole : Sole w) (tracked : Tracked w.connection)
    (origin : ∀ (index : ℕ) (changed : Request Value),
      after.connection.requests[index]? = some changed →
        (∃ request, w.connection.requests[index]? = some request ∧
          Kept w.connection request changed) ∨
          (changed.stage = .called ∧ changed.id = none ∧ changed.slot = .unset))
    (closed : w.connection.closed = true → after.connection.closed = true)
    (once : ∀ id, after.lines id ≤ 1)
    (unused : ∀ id, after.connection.nextId ≤ id → after.lines id = 0)
    (same : ∀ id, id < w.connection.nextId → after.lines id = w.lines id) : Sole after where
  once := once
  unused := unused
  unqueued index changed id found waits := by
    rcases origin index changed found with ⟨request, present, kept⟩ | ⟨new, _, _⟩
    · have before : Lines.unqueued request.stage = some id := kept.stage ▸ waits
      have own := tracked.own index request id present (drawn_of_unqueued before)
      rw [same id (tracked.fresh index request id present own)]
      exact sole.unqueued index request id present before
    · rw [new] at waits
      cases waits
  withdrawn index changed id found stage := by
    rcases origin index changed found with ⟨request, present, kept⟩ | ⟨new, _, _⟩
    · exact closed (sole.withdrawn index request id present (kept.stage ▸ stage))
    · rw [new] at stage
      cases stage
  dropped index changed found slot := by
    rcases origin index changed found with ⟨request, present, kept⟩ | ⟨_, _, new⟩
    · rcases kept.slot slot with before | shut
      · exact closed (sole.dropped index request present before)
      · exact closed shut
    · rw [new] at slot
      cases slot
  failed index changed id found fails own := by
    rcases origin index changed found with ⟨request, present, kept⟩ | ⟨_, new, _⟩
    · have drew : request.id = some id := kept.id ▸ own
      rw [same id (tracked.fresh index request id present drew)]
      exact (sole.failed index request id present (kept.stage ▸ fails) drew).imp_right closed
    · rw [new] at own
      cases own

/-- The next step of a call, as to what it may be and where it fails from. -/
structure Stride (s : Connection Value ε) (index : ℕ) (request changed : Request Value)
    (t : Connection Value ε) : Prop where
  requests : t.requests = s.requests.set index changed
  closed : t.closed = s.closed
  reader : t.reader = s.reader
  slot : changed.slot = request.slot
  id : changed.id = request.id ∨ ∃ id, changed.stage = .encoded id
  unqueued : ∀ id, unqueued changed.stage = some id → unqueued request.stage = some id ∨ id = s.nextId
  withdrawn : ∀ id, changed.stage = .withdrawing id → s.closed = true
  failed : Fails changed.stage → Fails request.stage ∨ request.stage = .called ∨
    request.stage = .checked ∨ (∃ id, Lines.unqueued request.stage = some id) ∨
    (∃ id, request.stage = .withdrawing id) ∨ request.slot = .dropped

theorem advance_strides (taken : s.advance index request = some t) :
    ∃ changed, Stride s index request changed t := by
  unfold Connection.advance at taken
  cases stage : request.stage with
  | called =>
    simp only [stage, Option.some.injEq] at taken
    subst taken
    refine ⟨_, rfl, rfl, rfl, rfl, Or.inl rfl, ?_, ?_, fun _ => Or.inr (Or.inl stage)⟩
    · intro id
      cases s.closed <;> simp [unqueued]
    · intro id
      cases s.closed <;> simp
  | checked =>
    simp only [stage] at taken
    cases encoding : request.encoding with
    | badParams message =>
      simp only [encoding, Option.some.injEq] at taken
      subst taken
      exact ⟨_, rfl, rfl, rfl, rfl, Or.inl rfl, by simp [unqueued], by simp,
        fun _ => Or.inr (Or.inr (Or.inl stage))⟩
    | badFrame message =>
      simp only [encoding, Option.some.injEq] at taken
      subst taken
      exact ⟨_, rfl, rfl, rfl, rfl, Or.inl rfl, by simp [unqueued], by simp,
        fun _ => Or.inr (Or.inr (Or.inl stage))⟩
    | encodes =>
      simp only [encoding, Option.some.injEq] at taken
      subst taken
      exact ⟨_, rfl, rfl, rfl, rfl, Or.inr ⟨_, rfl⟩, by simp [unqueued], by simp, by simp [Fails]⟩
  | encoded id =>
    simp only [stage, Option.some.injEq] at taken
    subst taken
    exact ⟨_, rfl, rfl, rfl, rfl, Or.inl rfl, by simp [unqueued, stage], by simp, by simp [Fails]⟩
  | registered id =>
    simp only [stage] at taken
    split at taken
    · split at taken
      · obtain rfl := (Option.some.inj taken).symm
        exact ⟨_, rfl, rfl, rfl, rfl, Or.inl rfl, by simp [unqueued], by simp, by simp [Fails]⟩
      · obtain rfl := (Option.some.inj taken).symm
        exact ⟨_, rfl, rfl, rfl, rfl, Or.inl rfl, by simp [unqueued, stage], by simp, by simp [Fails]⟩
    · obtain rfl := (Option.some.inj taken).symm
      exact ⟨_, rfl, rfl, rfl, rfl, Or.inl rfl, by simp [unqueued, stage], by simp, by simp [Fails]⟩
  | refused id full =>
    simp only [stage, Option.some.injEq] at taken
    subst taken
    refine ⟨_, rfl, rfl, rfl, rfl, Or.inl rfl, ?_, ?_, fun _ => ?_⟩
    · intro other
      cases full <;> simp [unqueued]
    · intro other
      cases full <;> simp
    · exact Or.inr (Or.inr (Or.inr (Or.inl ⟨id, by rw [stage]; rfl⟩)))
  | queued id =>
    simp only [stage, Option.some.injEq] at taken
    subst taken
    refine ⟨_, rfl, rfl, rfl, rfl, Or.inl rfl, ?_, ?_, ?_⟩
    · intro other
      cases s.closed <;> simp [unqueued]
    · intro other
      cases s.closed <;> simp
    · cases s.closed <;> simp [Fails]
  | withdrawing id =>
    simp only [stage] at taken
    split at taken
    · obtain rfl := (Option.some.inj taken).symm
      exact ⟨_, rfl, rfl, rfl, rfl, Or.inl rfl, by simp [unqueued], by simp,
        fun _ => Or.inr (Or.inr (Or.inr (Or.inr (Or.inl ⟨id, stage⟩))))⟩
    · obtain rfl := (Option.some.inj taken).symm
      exact ⟨_, rfl, rfl, rfl, rfl, Or.inl rfl, by simp [unqueued], by simp, by simp [Fails]⟩
  | awaiting id =>
    simp only [stage] at taken
    cases slot : request.slot with
    | unset => simp only [slot, reduceCtorEq] at taken
    | sent response result =>
      simp only [slot, Option.some.injEq] at taken
      subst taken
      exact ⟨_, rfl, rfl, rfl, slot.symm, Or.inl rfl, by simp [unqueued], by simp, by simp [Fails]⟩
    | dropped =>
      simp only [slot, Option.some.injEq] at taken
      subst taken
      exact ⟨_, rfl, rfl, rfl, slot.symm, Or.inl rfl, by simp [unqueued], by simp,
        fun _ => Or.inr (Or.inr (Or.inr (Or.inr (Or.inr slot))))⟩
  | failing =>
    simp only [stage, Option.some.injEq] at taken
    subst taken
    exact ⟨_, rfl, rfl, rfl, rfl, Or.inl rfl, by simp [unqueued], by simp,
      fun _ => Or.inl (Or.inl stage)⟩
  | completed completion => simp only [stage, reduceCtorEq] at taken

/-- The lines of a request of another call are left alone. -/
theorem Lining.others {label : Transport.Label Value ε} (lining : Lining w after label)
    (tracked : Tracked w.connection) (other : label ≠ .advance index)
    (present : w.connection.requests[index]? = some request) {id : ℕ} (own : request.id = some id) :
    after.lines id = w.lines id := by
  cases lining with
  | enqueues mover moving changed line there stage _ _ _ others =>
    refine others id fun same => other ?_
    subst same
    have drew := tracked.own mover moving id there (by rw [stage]; rfl)
    rw [tracked.distinct index mover request moving id present there own drew]
  | fires _ _ others =>
    exact others id (Nat.ne_of_lt (tracked.fresh index request id present own))
  | keeps _ same => exact same id

theorem Sole.lining {label : Transport.Label Value ε} (sole : Sole w)
    (tracked : Tracked w.connection) (grows : w.connection.nextId ≤ after.connection.nextId)
    (lining : Lining w after label) :
    (∀ id, after.lines id ≤ 1) ∧
      ∀ id, after.connection.nextId ≤ id → after.lines id = 0 := by
  cases lining with
  | enqueues index request changed line present stage _ _ more others =>
    have none' := sole.unqueued index request line present (by rw [stage]; rfl)
    have drew := tracked.own index request line present (by rw [stage]; rfl)
    have low := tracked.fresh index request line present drew
    refine ⟨fun id => ?_, fun id high => ?_⟩
    · by_cases same : id = line
      · rw [same, more, none']
      · exact others id same ▸ sole.once id
    · rw [others id (by omega)]
      exact sole.unused id (by omega)
  | fires next most others =>
    refine ⟨fun id => ?_, fun id high => ?_⟩
    · by_cases same : id = w.connection.nextId
      · rw [same]
        exact Nat.le_trans most (by rw [sole.unused _ (Nat.le_refl _)])
      · exact others id same ▸ sole.once id
    · rw [others id (by omega)]
      exact sole.unused id (by omega)
  | keeps _ same =>
    exact ⟨fun id => same id ▸ sole.once id,
      fun id high => (same id).trans (sole.unused id (Nat.le_trans grows high))⟩

theorem Sole.advance {changed : Request Value} (sole : Sole w) (tracked : Tracked w.connection)
    (present : w.connection.requests[index]? = some request)
    (grows : w.connection.nextId ≤ after.connection.nextId)
    (stride : Stride w.connection index request changed after.connection)
    (lining : Lining w after (.advance index)) : Sole after := by
  obtain ⟨requests, closed, _, slot, ownId, queueing, withdraws, fails⟩ := stride
  obtain ⟨once, unused⟩ := sole.lining tracked grows lining
  -- A call that is about to be queued is at no other stage afterwards.
  have lined : (∀ id, after.lines id = w.lines id) ∨ ∃ id, changed.stage = .queued id := by
    cases lining with
    | enqueues _ moving new line _ _ sets queued =>
      refine Or.inr ⟨line, ?_⟩
      have here := (set_entry present index new).mpr (Or.inl ⟨rfl, rfl⟩)
      rw [← sets, requests, (set_entry present index new)] at here
      rcases here with ⟨_, rfl⟩ | ⟨differs, _⟩
      · exact queued
      · exact absurd rfl differs
    | keeps _ same => exact Or.inl same
  have entries : ∀ (other : ℕ) (new : Request Value),
      after.connection.requests[other]? = some new →
        (other = index ∧ new = changed) ∨
          (other ≠ index ∧ w.connection.requests[other]? = some new) := by
    intro other new found
    rw [requests] at found
    exact (set_entry present other new).mp found
  refine ⟨once, unused, ?_, ?_, ?_, ?_⟩
  · intro other new id found waits
    rcases entries other new found with ⟨rfl, rfl⟩ | ⟨differs, old⟩
    · rcases lined with same | ⟨line, queued⟩
      · rw [same id]
        rcases queueing id waits with before | rfl
        · exact sole.unqueued other request id present before
        · exact sole.unused _ (Nat.le_refl _)
      · rw [queued] at waits
        cases waits
    · have own := tracked.own other new id old (drawn_of_unqueued waits)
      rw [lining.others tracked (fun same => differs (by cases same; rfl)) old own]
      exact sole.unqueued other new id old waits
  · intro other new id found stage
    rw [closed]
    rcases entries other new found with ⟨rfl, rfl⟩ | ⟨_, old⟩
    · exact withdraws id stage
    · exact sole.withdrawn other new id old stage
  · intro other new found dropped
    rw [closed]
    rcases entries other new found with ⟨rfl, rfl⟩ | ⟨_, old⟩
    · exact sole.dropped other request present (slot ▸ dropped)
    · exact sole.dropped other new old dropped
  · intro other new id found failing own
    rw [closed]
    rcases entries other new found with ⟨rfl, rfl⟩ | ⟨differs, old⟩
    · have kept : new.id = request.id := by
        rcases ownId with same | ⟨line, encoded⟩
        · exact same
        · rcases failing with stage | ⟨_, stage⟩ <;> cases encoded.symm.trans stage
      have drew : request.id = some id := kept ▸ own
      have same : after.lines id = w.lines id := by
        rcases lined with same | ⟨line, queued⟩
        · exact same id
        · rcases failing with stage | ⟨_, stage⟩ <;> cases queued.symm.trans stage
      rw [same]
      rcases fails failing with before | called | checked | ⟨line, waits⟩ | ⟨line, stage⟩ | dropped
      · exact sole.failed other request id present before drew
      · cases (tracked.undrawn other request present (Or.inl called)).symm.trans drew
      · cases (tracked.undrawn other request present (Or.inr checked)).symm.trans drew
      · have named := tracked.own other request line present (drawn_of_unqueued waits)
        obtain rfl := Option.some.inj (named.symm.trans drew)
        exact Or.inl (sole.unqueued other request line present waits)
      · exact Or.inr (sole.withdrawn other request line present stage)
      · exact Or.inr (sole.dropped other request present dropped)
    · rw [lining.others tracked (fun same => differs (by cases same; rfl)) old own]
      exact sole.failed other new id old failing own

/-- Every step of the connection and the runtime keeps the requests on one line each. -/
theorem sole_step {label : Label Value ε} (sole : Sole w) (tracked : Tracked w.connection)
    (taken : step capacity fits w label = some after) : Sole after := by
  cases label with
  | serve id =>
    have same : ∀ other, after.lines other = w.lines other := lines_serve taken
    have still := serve_keeps taken
    refine sole.kept tracked (fun index changed found => ?_) (fun closed => still ▸ closed)
      (fun id => same id ▸ sole.once id) (fun id high => ?_) fun id _ => same id
    · exact Or.inl ⟨changed, still ▸ found, .refl changed⟩
    · rw [same id]
      exact sole.unused id (still ▸ high)
  | transport label =>
    have lining := step_lining taken
    obtain ⟨connection, moved, rfl⟩ := Option.map_eq_some_iff.mp taken
    obtain ⟨closed, grows⟩ := step_ratchets moved
    obtain ⟨once, unused⟩ := sole.lining tracked grows lining
    by_cases advances : ∃ index, label = .advance index
    · obtain ⟨index, rfl⟩ := advances
      simp only [Transport.step] at moved
      split at moved
      · next request present =>
        obtain ⟨changed, stride⟩ := advance_strides moved
        exact sole.advance tracked present grows stride lining
      · cases moved
    · have still : ∀ index, label ≠ .advance index := fun index same => advances ⟨index, same⟩
      refine sole.kept tracked (fun index changed found => ?_) closed once unused fun id low => ?_
      · rcases step_origin tracked moved found with ⟨request, present, kept | ⟨same, _⟩⟩ | new
        · exact Or.inl ⟨request, present, kept⟩
        · exact absurd same (still index)
        · exact Or.inr new
      · cases lining with
        | enqueues index => exact absurd rfl (still index)
        | fires _ _ others => exact others id (Nat.ne_of_lt low)
        | keeps _ same => exact same id

/-! ## Calls that send nothing any more -/

/-- The call has completed and no line of it is out. -/
def Spent (w : Wire Value ε) (index : ℕ) : Prop :=
  ∃ request, w.connection.requests[index]? = some request ∧
    (∃ completion, request.stage = .completed completion) ∧
    ∀ id, request.id = some id → w.lines id = 0

/-- The call began after the connection was closed, and has drawn no id. -/
def Barred (w : Wire Value ε) (index : ℕ) : Prop :=
  w.connection.closed = true ∧ ∃ request, w.connection.requests[index]? = some request ∧
    request.id = none ∧ (request.stage = .called ∨ request.stage = .failing ∨
      ∃ completion, request.stage = .completed completion)

/-- The steps of others leave a call at its stage, with its id. -/
theorem step_keeps {label : Transport.Label Value ε} (tracked : Tracked s)
    (taken : Transport.step capacity fits s label = some t) (still : label ≠ .advance index)
    (present : s.requests[index]? = some request) :
    ∃ changed, t.requests[index]? = some changed ∧ changed.stage = request.stage ∧
      changed.id = request.id := by
  obtain ⟨changed, found, same | ⟨moves, _⟩, _⟩ := step_request taken present
  · rcases step_origin tracked taken found with ⟨before, there, kept | ⟨moves, _⟩⟩ | ⟨called, id, _⟩
    · obtain rfl : before = request := Option.some.inj (there.symm.trans present)
      exact ⟨changed, found, kept.stage, kept.id⟩
    · exact absurd moves still
    · refine ⟨changed, found, same, ?_⟩
      rw [id, tracked.undrawn index request present (Or.inl (same.symm.trans called))]
  · exact absurd moves still

theorem completed_still {label : Transport.Label Value ε} {completion : Completion Value}
    (taken : Transport.step capacity fits s label = some t)
    (present : s.requests[index]? = some request) (stage : request.stage = .completed completion) :
    label ≠ .advance index := by
  rintro rfl
  simp [Transport.step, present, Connection.advance, stage] at taken

theorem spent_step {label : Label Value ε} (tracked : Tracked w.connection)
    (taken : step capacity fits w label = some after) (spent : Spent w index) :
    Spent after index := by
  obtain ⟨request, present, ⟨completion, stage⟩, idle⟩ := spent
  cases label with
  | serve id =>
    refine ⟨request, serve_keeps taken ▸ present, ⟨completion, stage⟩, fun own drew => ?_⟩
    rw [lines_serve taken]
    exact idle own drew
  | transport label =>
    have lining := step_lining taken
    obtain ⟨connection, moved, rfl⟩ := Option.map_eq_some_iff.mp taken
    have still := completed_still moved present stage
    obtain ⟨changed, found, same, id⟩ := step_keeps tracked moved still present
    refine ⟨changed, found, ⟨completion, same.trans stage⟩, fun own drew => ?_⟩
    have before : request.id = some own := id.symm.trans drew
    rw [lining.others tracked still present before]
    exact idle own before

theorem barred_step {label : Label Value ε} (tracked : Tracked w.connection)
    (taken : step capacity fits w label = some after) (barred : Barred w index) :
    Barred after index := by
  obtain ⟨closed, request, present, own, stage⟩ := barred
  cases label with
  | serve id =>
    have same := serve_keeps taken
    exact ⟨same ▸ closed, request, same ▸ present, own, stage⟩
  | transport label =>
    obtain ⟨connection, moved, rfl⟩ := Option.map_eq_some_iff.mp taken
    refine ⟨(step_ratchets moved).1 closed, ?_⟩
    by_cases advances : label = .advance index
    · subst advances
      simp only [Transport.step, present] at moved
      unfold Connection.advance at moved
      rcases stage with called | failing | ⟨completion, completed⟩
      · simp only [called, closed, Option.some.injEq] at moved
        subst moved
        exact ⟨_, (set_entry present index _).mpr (Or.inl ⟨rfl, rfl⟩), own, Or.inr (Or.inl rfl)⟩
      · simp only [failing, Option.some.injEq] at moved
        subst moved
        exact ⟨_, (set_entry present index _).mpr (Or.inl ⟨rfl, rfl⟩), own,
          Or.inr (Or.inr ⟨_, rfl⟩)⟩
      · simp only [completed, reduceCtorEq] at moved
    · obtain ⟨changed, found, same, id⟩ := step_keeps tracked moved advances present
      exact ⟨changed, found, id.trans own, same ▸ stage⟩

theorem closed_step {label : Label Value ε} (taken : step capacity fits w label = some after)
    (closed : w.connection.closed = true) : after.connection.closed = true := by
  cases label with
  | serve id => exact serve_keeps taken ▸ closed
  | transport label =>
    obtain ⟨connection, moved, rfl⟩ := Option.map_eq_some_iff.mp taken
    exact (step_ratchets moved).1 closed

theorem listed_step {label : Label Value ε} (taken : step capacity fits w label = some after)
    (listed : index < w.connection.requests.length) :
    index < after.connection.requests.length := by
  cases label with
  | serve id => exact serve_keeps taken ▸ listed
  | transport label =>
    obtain ⟨connection, moved, rfl⟩ := Option.map_eq_some_iff.mp taken
    obtain ⟨changed, found, _⟩ := step_request moved (List.getElem?_eq_getElem listed)
    exact (List.getElem?_eq_some_iff.mp found).1

/-- A call that failed has no line out, or finds the connection closed. -/
theorem Sole.spent_or_closed {error : Transport.ClientError} (sole : Sole w)
    (present : w.connection.requests[index]? = some request)
    (stage : request.stage = .completed (.failed error)) :
    Spent w index ∨ w.connection.closed = true := by
  by_cases closed : w.connection.closed = true
  · exact Or.inr closed
  · refine Or.inl ⟨request, present, ⟨_, stage⟩, fun id own => ?_⟩
    rcases sole.failed index request id present (Or.inr ⟨error, stage⟩) own with idle | shut
    · exact idle
    · exact absurd shut closed

/-! ## What the runtime answered -/

theorem step_responses {label : Transport.Label Value ε}
    (taken : Transport.step capacity fits s label = some t) :
    t.responses = s.responses ∨ ∃ id result, s.reader = .holding (.response id result) ∧
      t.responses = s.responses ++ [(id, result)] := by
  cases step_effect taken with
  | call encoding subscribes same => exact Or.inl (same ▸ rfl)
  | advance mover moving there moved =>
    obtain ⟨new, effect⟩ := advance_moves moved
    exact Or.inl effect.responses
  | register registrant registering there moved =>
    unfold Connection.register at moved
    split at moved
    · split at moved
      · obtain ⟨hub, _, rfl⟩ := Option.map_eq_some_iff.mp moved
        exact Or.inl rfl
      · cases moved
    · cases moved
  | advanceCloser closer closing there moved =>
    unfold Connection.advanceCloser at moved
    cases closing with
    | settingReason reason => exact Or.inl (Option.some.inj moved ▸ rfl)
    | settingClosed => exact Or.inl (Option.some.inj moved ▸ rfl)
    | draining => exact Or.inl (Option.some.inj moved ▸ rfl)
    | dropping held => cases held <;> exact Or.inl (Option.some.inj moved ▸ rfl)
    | endingEvents =>
      simp only at moved
      split at moved
      · exact Or.inl (Option.some.inj moved ▸ rfl)
      · cases moved
    | finished => cases moved
  | respond id result holding same =>
    subst same
    refine Or.inr ⟨id, result, holding, ?_⟩
    unfold Connection.resolve
    split <;> rfl
  | quiet _ quiet => exact Or.inl quiet.responses

/-- The reader handles what it has read. -/
theorem step_holding {label : Transport.Label Value ε} {frame : Transport.Frame Value ε}
    (taken : Transport.step capacity fits s label = some t) (holding : t.reader = .holding frame) :
    s.reader = .holding frame ∨ label = .readLine frame := by
  unfold Transport.step at taken
  cases label with
  | call encoding subscribes =>
    obtain rfl := (Option.some.inj taken).symm
    exact Or.inl holding
  | advance index =>
    simp only at taken
    split at taken
    · next request present =>
      exact Or.inl ((advance_strides taken).elim fun _ stride => stride.reader ▸ holding)
    · cases taken
  | register index =>
    simp only at taken
    split at taken
    · unfold Connection.register at taken
      split at taken
      · split at taken
        · obtain ⟨hub, _, rfl⟩ := Option.map_eq_some_iff.mp taken
          exact Or.inl holding
        · cases taken
      · cases taken
    · cases taken
  | fireAndForget =>
    obtain rfl := (Option.some.inj taken).symm
    exact Or.inl holding
  | close =>
    obtain rfl := (Option.some.inj taken).symm
    exact Or.inl holding
  | advanceCloser closer =>
    simp only at taken
    split at taken
    · next closing _ =>
      unfold Connection.advanceCloser at taken
      cases closing with
      | settingReason reason =>
        obtain rfl := (Option.some.inj taken).symm
        exact Or.inl holding
      | settingClosed =>
        obtain rfl := (Option.some.inj taken).symm
        exact Or.inl holding
      | draining =>
        obtain rfl := (Option.some.inj taken).symm
        exact Or.inl holding
      | dropping held =>
        cases held with
        | nil =>
          obtain rfl := (Option.some.inj taken).symm
          exact Or.inl holding
        | cons first rest =>
          obtain rfl := (Option.some.inj taken).symm
          exact Or.inl holding
      | endingEvents =>
        simp only at taken
        split at taken
        · obtain rfl := (Option.some.inj taken).symm
          exact Or.inl holding
        · cases taken
      | finished => cases taken
    · cases taken
  | dropShutdown =>
    simp only at taken
    split at taken
    · obtain rfl := (Option.some.inj taken).symm
      exact Or.inl holding
    · cases taken
  | readLine read =>
    simp only at taken
    split at taken
    · split at taken
      · obtain rfl := (Option.some.inj taken).symm
        obtain rfl := Transport.Reader.holding.inj holding
        exact Or.inr rfl
      · cases taken
    · cases taken
  | readEnd error =>
    simp only at taken
    split at taken
    · split at taken
      · obtain rfl := (Option.some.inj taken).symm
        cases holding
      · cases taken
    · cases taken
  | handle =>
    simp only at taken
    split at taken
    · next read _ =>
      cases read with
      | response id result =>
        obtain rfl := (Option.some.inj taken).symm
        cases holding
      | event payload =>
        obtain ⟨hub, _, rfl⟩ := Option.map_eq_some_iff.mp taken
        cases holding
      | malformed error =>
        obtain rfl := (Option.some.inj taken).symm
        cases holding
    · cases taken
  | fanned =>
    simp only at taken
    split at taken
    · split at taken
      · obtain rfl := (Option.some.inj taken).symm
        cases holding
      · cases taken
    · cases taken
  | seeShutdown =>
    simp only at taken
    split at taken
    · split at taken
      · cases taken
      · obtain rfl := (Option.some.inj taken).symm
        cases holding
    · cases taken
  | recvLine =>
    simp only at taken
    split at taken
    · obtain rfl := (Option.some.inj taken).symm
      exact Or.inl holding
    · split at taken
      · cases taken
      · obtain rfl := (Option.some.inj taken).symm
        exact Or.inl holding
    · cases taken
  | writeOk =>
    simp only at taken
    split at taken
    · obtain rfl := (Option.some.inj taken).symm
      exact Or.inl holding
    · cases taken
  | writeFails kind message =>
    simp only at taken
    split at taken
    · obtain rfl := (Option.some.inj taken).symm
      exact Or.inl holding
    · cases taken
  | endWriter =>
    simp only at taken
    split at taken
    · split at taken
      · obtain rfl := (Option.some.inj taken).symm
        exact Or.inl holding
      · cases taken
    · cases taken
  | fanout label =>
    simp only at taken
    split at taken
    · obtain ⟨hub, _, rfl⟩ := Option.map_eq_some_iff.mp taken
      exact Or.inl holding
    · cases taken

end ADesk.Client.Lines
