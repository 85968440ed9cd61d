/- ADesk/Client/Completion
   digest: Every request completes once, with its own response or an error, and none is left
   waiting once the connection has closed. -/

import ADesk.Client.Transport

set_option autoImplicit false

namespace ADesk.Client.Completion

open ADesk.Client.Transport
open ADesk.Foundation.Entries
open ADesk.Foundation.Execution

universe u v

variable {ε : Type u} {Value : Type v}

/-- The id a call has drawn, while it still needs it. -/
def drawn : Stage Value → Option ℕ
  | .encoded id | .registered id | .refused id _ | .queued id | .withdrawing id | .awaiting id =>
    some id
  | .called | .checked | .failing | .completed _ => none

/-- The id under which the call entered the pending map. -/
def enrolled : Stage Value → Option ℕ
  | .registered id | .refused id _ | .queued id | .withdrawing id | .awaiting id => some id
  | .called | .checked | .encoded _ | .failing | .completed _ => none

theorem drawn_of_enrolled {stage : Stage Value} {id : ℕ} (member : enrolled stage = some id) :
    drawn stage = some id := by
  cases stage with
  | called => cases member
  | checked => cases member
  | encoded _ => cases member
  | failing => cases member
  | completed _ => cases member
  | registered _ => exact member
  | refused _ _ => exact member
  | queued _ => exact member
  | withdrawing _ => exact member
  | awaiting _ => exact member

def hasDrained : Closing → Bool
  | .dropping _ | .endingEvents | .finished => true
  | .settingReason _ | .settingClosed | .draining => false

/-- The call has been in the pending map. -/
def entered : Stage Value → Bool
  | .called | .checked | .encoded _ => false
  | .registered _ | .refused _ _ | .queued _ | .withdrawing _ | .awaiting _ | .failing
  | .completed _ => true

/-- Some run of `close_with` has emptied the pending map. -/
def Drained (closers : List Closing) : Prop := ∃ closing ∈ closers, hasDrained closing = true

/-- Some run of `close_with` holds the sender of a request and will drop it. -/
def Held (closers : List Closing) (index : ℕ) : Prop :=
  ∃ held, Closing.dropping held ∈ closers ∧ index ∈ held

/-- The results a request may complete with. -/
def Rightful (s : Connection Value ε) (request : Request Value) : Completion Value → Prop
  | .answered id result => request.id = some id ∧ (id, result) ∈ s.responses
  | .failed error =>
    error = .closed ∨ (∃ reason, s.closeReason = some reason ∧ error = reason.toError) ∨
      ∃ message, (request.encoding = .badParams message ∨ request.encoding = .badFrame message) ∧
        error = .protocol message

/-- Where the sender of every request is, and what a completed request came to. -/
structure Tracked (s : Connection Value ε) : Prop where
  own : ∀ (index : ℕ) (request : Request Value) (id : ℕ), s.requests[index]? = some request →
    drawn request.stage = some id → request.id = some id
  undrawn : ∀ (index : ℕ) (request : Request Value), s.requests[index]? = some request →
    request.stage = .called ∨ request.stage = .checked → request.id = none
  unsent : ∀ (index : ℕ) (request : Request Value), s.requests[index]? = some request →
    entered request.stage = false → request.slot = .unset
  fresh : ∀ (index : ℕ) (request : Request Value) (id : ℕ), s.requests[index]? = some request →
    request.id = some id → id < s.nextId
  distinct : ∀ (first second : ℕ) (one other : Request Value) (id : ℕ),
    s.requests[first]? = some one → s.requests[second]? = some other → one.id = some id →
      other.id = some id → first = second
  entry : ∀ id index, s.pending.lookup id = some index → ∃ request : Request Value,
    s.requests[index]? = some request ∧ enrolled request.stage = some id ∧ request.slot = .unset
  held : ∀ index, Held s.closers index → (∀ id, s.pending.lookup id ≠ some index) ∧
    ∃ request : Request Value, s.requests[index]? = some request ∧ entered request.stage = true
  located : ∀ (index : ℕ) (request : Request Value) (id : ℕ),
    s.requests[index]? = some request → enrolled request.stage = some id →
      (∃ response result, request.slot = .sent response result) ∨ request.slot = .dropped ∨
        s.pending.lookup id = some index ∨ Held s.closers index
  waiting : ∀ (index : ℕ) (request : Request Value) (id : ℕ),
    s.requests[index]? = some request → request.stage = .awaiting id →
      s.pending.lookup id = some index → ¬ Drained s.closers
  answered : ∀ (index : ℕ) (request : Request Value) (id : ℕ) (result : Except ServerError Value),
    s.requests[index]? = some request → request.slot = .sent id result →
      request.id = some id ∧ (id, result) ∈ s.responses
  flagged : ∀ closing ∈ s.closers, closing = .draining ∨ hasDrained closing = true →
    s.closed = true
  reason : ∀ closing ∈ s.closers, closing = .settingClosed ∨ closing = .draining ∨
    hasDrained closing = true → s.closeReason ≠ none
  rightful : ∀ (index : ℕ) (request : Request Value) (completion : Completion Value),
    s.requests[index]? = some request → request.stage = .completed completion →
      Rightful s request completion

theorem Tracked.connect : Tracked (Connection.connect : Connection Value ε) where
  own index request id present := by simp [Connection.connect] at present
  undrawn index request present := by simp [Connection.connect] at present
  unsent index request present := by simp [Connection.connect] at present
  fresh index request id present := by simp [Connection.connect] at present
  distinct first second one other id present := by simp [Connection.connect] at present
  entry id index found := by simp [Connection.connect] at found
  held index held := by simp [Connection.connect, Held] at held
  located index request id present := by simp [Connection.connect] at present
  waiting index request id present := by simp [Connection.connect] at present
  answered index request id result present := by simp [Connection.connect] at present
  flagged closing member := by simp [Connection.connect] at member
  reason closing member := by simp [Connection.connect] at member
  rightful index request completion present := by simp [Connection.connect] at present

variable {s after : Connection Value ε} {index : ℕ} {request : Request Value}

/-- A new run of `close_with` has drained and holds nothing yet. -/
theorem drained_append (closers : List Closing) (reason : CloseReason) :
    Drained (closers ++ [.settingReason reason]) ↔ Drained closers := by
  simp [Drained, hasDrained, or_and_right, exists_or]

theorem held_append (closers : List Closing) (reason : CloseReason) (index : ℕ) :
    Held (closers ++ [.settingReason reason]) index ↔ Held closers index := by
  simp [Held]

/-- No more lines go out: the sender of the outbound queue or its receiver is gone, or will be. -/
def Broken (s : Connection Value ε) : Prop :=
  s.outbound = false ∨ s.writer = .ended ∨ ∃ closer, s.writer = .closing closer

/-- Steps that leave requests, pending map and closing alone, or start one more closing. -/
structure Quiet (s after : Connection Value ε) : Prop where
  requests : after.requests = s.requests
  pending : after.pending = s.pending
  nextId : s.nextId ≤ after.nextId
  closed : after.closed = s.closed
  closeReason : after.closeReason = s.closeReason
  responses : after.responses = s.responses
  closers : after.closers = s.closers ∨
    ∃ reason, after.closers = s.closers ++ [.settingReason reason]
  broken : Broken after → Broken s ∨ after.closers ≠ []

theorem Tracked.quiet (tracked : Tracked s) (quiet : Quiet s after) : Tracked after := by
  obtain ⟨requests, pending, nextId, closed, closeReason, responses, closers, _⟩ := quiet
  have drained : Drained after.closers ↔ Drained s.closers := by
    rcases closers with same | ⟨reason, more⟩
    · rw [same]
    · rw [more, drained_append]
  have held : ∀ index, Held after.closers index ↔ Held s.closers index := by
    intro index
    rcases closers with same | ⟨reason, more⟩
    · rw [same]
    · rw [more, held_append]
  refine ⟨?_, ?_, ?_, ?_, ?_, ?_, ?_, ?_, ?_, ?_, ?_, ?_, ?_⟩
  · rw [requests]
    exact tracked.own
  · rw [requests]
    exact tracked.undrawn
  · rw [requests]
    exact tracked.unsent
  · intro index request id present drawn
    rw [requests] at present
    exact Nat.lt_of_lt_of_le (tracked.fresh index request id present drawn) nextId
  · rw [requests]
    exact tracked.distinct
  · rw [requests, pending]
    exact tracked.entry
  · intro index holds
    rw [requests, pending]
    exact tracked.held index ((held index).mp holds)
  · intro index request id present member
    rw [requests] at present
    rw [pending, held]
    exact tracked.located index request id present member
  · intro index request id present stage found
    rw [requests] at present
    rw [pending] at found
    rw [drained]
    exact tracked.waiting index request id present stage found
  · rw [requests, responses]
    exact tracked.answered
  · intro closing member started
    rw [closed]
    rcases closers with same | ⟨reason, more⟩
    · exact tracked.flagged closing (same ▸ member) started
    · rw [more] at member
      rcases List.mem_append.mp member with old | new
      · exact tracked.flagged closing old started
      · rw [List.mem_singleton.mp new] at started
        simp [hasDrained] at started
  · intro closing member started
    rw [closeReason]
    rcases closers with same | ⟨reason, more⟩
    · exact tracked.reason closing (same ▸ member) started
    · rw [more] at member
      rcases List.mem_append.mp member with old | new
      · exact tracked.reason closing old started
      · rw [List.mem_singleton.mp new] at started
        simp [hasDrained] at started
  · intro index request completion present stage
    rw [requests] at present
    have rightful := tracked.rightful index request completion present stage
    cases completion with
    | answered id result =>
      unfold Rightful at rightful ⊢
      rw [responses]
      exact rightful
    | failed error =>
      unfold Rightful at rightful ⊢
      rw [closeReason]
      exact rightful

/-- One request moves on: its slot stays, and only the entry of its own id may change. -/
theorem Tracked.put (tracked : Tracked s) (present : s.requests[index]? = some request)
    {changed : Request Value} {pending : AList (fun _ : ℕ => ℕ)} {nextId : ℕ} {queue : List ℕ}
    (later : s.nextId ≤ nextId) (slot : changed.slot = request.slot)
    (own : ∀ id, drawn changed.stage = some id → changed.id = some id)
    (undrawn : changed.stage = .called ∨ changed.stage = .checked → changed.id = none)
    (unsent : entered changed.stage = false → entered request.stage = false)
    (drew : changed.id = request.id ∨
      (request.id = none ∧ changed.id = some s.nextId ∧ s.nextId < nextId))
    (others : ∀ id, changed.id ≠ some id → pending.lookup id = s.pending.lookup id)
    (mine : ∀ id, changed.id = some id → pending.lookup id = none ∨
      (pending.lookup id = some index ∧ enrolled changed.stage = some id ∧ changed.slot = .unset))
    (held : Held s.closers index →
      (∀ id, pending.lookup id ≠ some index) ∧ entered changed.stage = true)
    (located : ∀ id, enrolled changed.stage = some id →
      (∃ response result, changed.slot = .sent response result) ∨ changed.slot = .dropped ∨
        pending.lookup id = some index ∨ Held s.closers index)
    (waiting : ∀ id, changed.stage = .awaiting id → pending.lookup id = some index →
      ¬ Drained s.closers)
    (rightful : ∀ completion, changed.stage = .completed completion →
      Rightful s changed completion) :
    Tracked { s.put index changed with pending := pending, nextId := nextId, queue := queue } := by
  have entries : ∀ (other : ℕ) (entry : Request Value),
      (s.requests.set index changed)[other]? = some entry ↔
        (other = index ∧ entry = changed) ∨ (other ≠ index ∧ s.requests[other]? = some entry) :=
    fun other entry => set_entry present other entry
  -- The id of the moved request is new or was its own: no other request has it.
  have unshared : ∀ (other : ℕ) (entry : Request Value) (id : ℕ), other ≠ index →
      s.requests[other]? = some entry → entry.id = some id → changed.id ≠ some id := by
    intro other entry id differs found has same
    rcases drew with kept | ⟨_, fresh, _⟩
    · exact differs (tracked.distinct other index entry request id found present has
        (kept ▸ same))
    · have := tracked.fresh other entry id found has
      rw [fresh, Option.some.injEq] at same
      omega
  refine ⟨?_, ?_, ?_, ?_, ?_, ?_, ?_, ?_, ?_, ?_, tracked.flagged, tracked.reason, ?_⟩
  · intro other entry id found
    rcases (entries other entry).mp found with ⟨rfl, rfl⟩ | ⟨_, kept⟩
    · exact own id
    · exact tracked.own other entry id kept
  · intro other entry found
    rcases (entries other entry).mp found with ⟨rfl, rfl⟩ | ⟨_, kept⟩
    · exact undrawn
    · exact tracked.undrawn other entry kept
  · intro other entry found early
    rcases (entries other entry).mp found with ⟨rfl, rfl⟩ | ⟨_, kept⟩
    · exact slot.trans (tracked.unsent other request present (unsent early))
    · exact tracked.unsent other entry kept early
  · intro other entry id found has
    rcases (entries other entry).mp found with ⟨rfl, rfl⟩ | ⟨_, kept⟩
    · rcases drew with kept | ⟨_, fresh, bound⟩
      · exact Nat.lt_of_lt_of_le (tracked.fresh other request id present (kept ▸ has)) later
      · rw [fresh, Option.some.injEq] at has
        exact has ▸ bound
    · exact Nat.lt_of_lt_of_le (tracked.fresh other entry id kept has) later
  · intro first second one other id firstFound secondFound firstHas secondHas
    rcases (entries first one).mp firstFound with ⟨rfl, rfl⟩ | ⟨differs, kept⟩ <;>
      rcases (entries second other).mp secondFound with ⟨rfl, rfl⟩ | ⟨differs', kept'⟩
    · rfl
    · exact absurd firstHas (unshared second other id differs' kept' secondHas)
    · exact absurd secondHas (unshared first one id differs kept firstHas)
    · exact tracked.distinct first second one other id kept kept' firstHas secondHas
  · intro id other found
    by_cases same : changed.id = some id
    · rcases mine id same with absent | ⟨here, enrolled⟩
      · rw [absent] at found
        cases found
      · obtain rfl : index = other := Option.some.inj (here.symm.trans found)
        exact ⟨changed, (entries index changed).mpr (Or.inl ⟨rfl, rfl⟩), enrolled⟩
    · rw [others id same] at found
      obtain ⟨entry, kept, enrolled, unset⟩ := tracked.entry id other found
      by_cases here : other = index
      · subst here
        obtain rfl : request = entry := Option.some.inj (present.symm.trans kept)
        have had := tracked.own other request id present (drawn_of_enrolled enrolled)
        rcases drew with kept' | ⟨none', _⟩
        · exact absurd (kept'.trans had) same
        · rw [none'] at had
          cases had
      · exact ⟨entry, (entries other entry).mpr (Or.inr ⟨here, kept⟩), enrolled, unset⟩
  · intro other holds
    by_cases here : other = index
    · subst here
      obtain ⟨absent, past⟩ := held holds
      exact ⟨absent, changed, (entries other changed).mpr (Or.inl ⟨rfl, rfl⟩), past⟩
    · obtain ⟨absent, entry, kept, past⟩ := tracked.held other holds
      refine ⟨fun id found => ?_, entry, (entries other entry).mpr (Or.inr ⟨here, kept⟩), past⟩
      simp only at found
      by_cases same : changed.id = some id
      · rcases mine id same with none' | ⟨own', _⟩
        · rw [none'] at found
          cases found
        · exact here (Option.some.inj (found.symm.trans own'))
      · rw [others id same] at found
        exact absent id found
  · intro other entry id found member
    rcases (entries other entry).mp found with ⟨rfl, rfl⟩ | ⟨differs, kept⟩
    · exact located id member
    · have has := tracked.own other entry id kept (drawn_of_enrolled member)
      have old := tracked.located other entry id kept member
      rw [← others id (unshared other entry id differs kept has)] at old
      exact old
  · intro other entry id found stage listed
    rcases (entries other entry).mp found with ⟨rfl, rfl⟩ | ⟨differs, kept⟩
    · exact waiting id stage listed
    · have has : entry.id = some id := by
        refine tracked.own other entry id kept ?_
        rw [stage]
        rfl
      simp only at listed
      rw [others id (unshared other entry id differs kept has)] at listed
      exact tracked.waiting other entry id kept stage listed
  · intro other entry id result found sent
    rcases (entries other entry).mp found with ⟨rfl, rfl⟩ | ⟨_, kept⟩
    · rw [slot] at sent
      obtain ⟨has, listed⟩ := tracked.answered other request id result present sent
      rcases drew with same | ⟨none', _⟩
      · exact ⟨same.trans has, listed⟩
      · rw [none'] at has
        cases has
    · exact tracked.answered other entry id result kept sent
  · intro other entry completion found stage
    rcases (entries other entry).mp found with ⟨rfl, rfl⟩ | ⟨_, kept⟩
    · exact rightful completion stage
    · exact tracked.rightful other entry completion kept stage

/-- The entry of a request's own id, if there is one, is its own. -/
theorem Tracked.own_entry (tracked : Tracked s) (present : s.requests[index]? = some request)
    {id : ℕ} (has : request.id = some id) :
    s.pending.lookup id = none ∨ (s.pending.lookup id = some index ∧
      enrolled request.stage = some id ∧ request.slot = .unset) := by
  cases found : s.pending.lookup id with
  | none => exact Or.inl rfl
  | some other =>
    obtain ⟨entry, kept, member, unset⟩ := tracked.entry id other found
    have theirs := tracked.own other entry id kept (drawn_of_enrolled member)
    obtain rfl := tracked.distinct other index entry request id kept present theirs has
    obtain rfl : entry = request := Option.some.inj (kept.symm.trans present)
    exact Or.inr ⟨rfl, member, unset⟩

/-- A move of a call that neither draws an id nor enters or leaves the pending map. -/
structure Follows (before after : Stage Value) : Prop where
  own : ∀ id, drawn after = some id → drawn before = some id
  undrawn : after = .called ∨ after = .checked → before = .called ∨ before = .checked
  member : enrolled after = enrolled before
  past : entered before = true → entered after = true

theorem Tracked.stay (tracked : Tracked s) (present : s.requests[index]? = some request)
    {changed : Request Value} {queue : List ℕ} (slot : changed.slot = request.slot)
    (id : changed.id = request.id)
    (follows : Follows request.stage changed.stage)
    (waiting : ∀ id, changed.stage = .awaiting id → s.pending.lookup id = some index →
      ¬ Drained s.closers)
    (rightful : ∀ completion, changed.stage = .completed completion →
      Rightful s changed completion) :
    Tracked { s.put index changed with queue := queue } := by
  refine tracked.put present (Nat.le_refl _) slot ?_ ?_ ?_ (Or.inl id) (fun _ _ => rfl) ?_ ?_ ?_
    waiting rightful
  · intro number drawn
    rw [id]
    exact tracked.own index request number present (follows.own number drawn)
  · intro early
    rw [id]
    exact tracked.undrawn index request present (follows.undrawn early)
  · intro early
    by_contra went
    rw [follows.past (Bool.not_eq_false _ ▸ went)] at early
    cases early
  · intro number has
    rw [id] at has
    rw [follows.member, slot]
    exact tracked.own_entry present has
  · intro holds
    obtain ⟨absent, entry, kept, went⟩ := tracked.held index holds
    obtain rfl : request = entry := Option.some.inj (present.symm.trans kept)
    exact ⟨absent, follows.past went⟩
  · intro number listed
    rw [slot]
    exact tracked.located index request number present (follows.member ▸ listed)

/-- A move of a call that is done with its entry, which is gone. -/
theorem Tracked.leave (tracked : Tracked s) (present : s.requests[index]? = some request)
    {id : ℕ} (has : request.id = some id) {changed : Request Value}
    {pending : AList (fun _ : ℕ => ℕ)} (slot : changed.slot = request.slot)
    (same : changed.id = request.id) (done : drawn changed.stage = none)
    (past : entered changed.stage = true) (absent : pending.lookup id = none)
    (others : ∀ other, other ≠ id → pending.lookup other = s.pending.lookup other)
    (rightful : ∀ completion, changed.stage = .completed completion →
      Rightful s changed completion) :
    Tracked { s.put index changed with pending := pending } := by
  have notEnrolled : ∀ other, enrolled changed.stage ≠ some other := by
    intro other member
    rw [drawn_of_enrolled member] at done
    cases done
  refine tracked.put present (Nat.le_refl _) slot ?_ ?_ ?_ (Or.inl same) ?_ ?_ ?_ ?_ ?_ rightful
  · intro other drew
    rw [done] at drew
    cases drew
  · intro early
    rcases early with first | second
    · rw [first] at past
      cases past
    · rw [second] at past
      cases past
  · intro early
    rw [past] at early
    cases early
  · intro other differs
    refine others other fun here => differs ?_
    rw [same, has, here]
  · intro other mine
    rw [same, has, Option.some.injEq] at mine
    exact Or.inl (mine ▸ absent)
  · intro holds
    refine ⟨fun other found => ?_, past⟩
    by_cases here : other = id
    · rw [here, absent] at found
      cases found
    · rw [others other here] at found
      exact (tracked.held index holds).1 other found
  · exact fun other member => absurd member (notEnrolled other)
  · intro other stage
    have := notEnrolled other
    rw [stage] at this
    exact absurd rfl this

/-- What holds of the error a cancelled call reports. -/
theorem close_error_rightful (s : Connection Value ε) (request : Request Value) :
    Rightful s request (.failed s.closeError) := by
  unfold Rightful Connection.closeError
  cases reason : s.closeReason with
  | none => exact Or.inl rfl
  | some stored => exact Or.inr (Or.inl ⟨stored, rfl, rfl⟩)

theorem Tracked.advance (tracked : Tracked s) (present : s.requests[index]? = some request)
    (taken : s.advance index request = some after) : Tracked after := by
  unfold Connection.advance at taken
  cases stage : request.stage with
  | called =>
    simp only [stage, Option.some.injEq] at taken
    subst taken
    cases closed : s.closed with
    | true =>
      refine tracked.stay present rfl rfl ?_ ?_ ?_
      · rw [stage]
        exact ⟨by simp [drawn], by simp, rfl, by simp [entered]⟩
      · simp
      · simp
    | false =>
      refine tracked.stay present rfl rfl ?_ ?_ ?_
      · rw [stage]
        exact ⟨by simp [drawn], by simp, rfl, by simp [entered]⟩
      · simp
      · simp
  | checked =>
    have undrawn := tracked.undrawn index request present (Or.inr stage)
    simp only [stage] at taken
    cases encoding : request.encoding with
    | badParams message =>
      simp only [encoding, Option.some.injEq] at taken
      subst taken
      refine tracked.stay present rfl rfl ?_ ?_ ?_
      · rw [stage]
        exact ⟨by simp [drawn], by simp, rfl, by simp [entered]⟩
      · simp
      · intro completion same
        obtain rfl := Stage.completed.inj same
        exact Or.inr (Or.inr ⟨message, Or.inl rfl, rfl⟩)
    | badFrame message =>
      simp only [encoding, Option.some.injEq] at taken
      subst taken
      refine tracked.put present (Nat.le_succ _) rfl ?_ ?_ ?_ (Or.inl rfl) (fun _ _ => rfl) ?_ ?_
        ?_ ?_ ?_
      · simp [drawn]
      · simp
      · simp [entered]
      · intro id has
        rw [show request.id = some id from has] at undrawn
        cases undrawn
      · intro holds
        exact ⟨(tracked.held index holds).1, rfl⟩
      · simp [enrolled]
      · simp
      · intro completion same
        obtain rfl := Stage.completed.inj same
        exact Or.inr (Or.inr ⟨message, Or.inr rfl, rfl⟩)
    | encodes =>
      simp only [encoding, Option.some.injEq] at taken
      subst taken
      have fresh : s.pending.lookup s.nextId = none := by
        cases found : s.pending.lookup s.nextId with
        | none => rfl
        | some other =>
          obtain ⟨entry, kept, member, _⟩ := tracked.entry _ other found
          have theirs := tracked.own other entry _ kept (drawn_of_enrolled member)
          exact absurd (tracked.fresh other entry _ kept theirs) (Nat.lt_irrefl _)
      refine tracked.put present (Nat.le_succ _) rfl ?_ ?_ ?_
        (Or.inr ⟨undrawn, rfl, Nat.lt_succ_self _⟩) (fun _ _ => rfl) ?_ ?_ ?_ ?_ ?_
      · simp [drawn]
      · simp
      · simp [stage, entered]
      · intro id has
        obtain rfl := Option.some.inj has
        exact Or.inl fresh
      · intro holds
        obtain ⟨_, entry, kept, went⟩ := tracked.held index holds
        obtain rfl : request = entry := Option.some.inj (present.symm.trans kept)
        rw [stage] at went
        cases went
      · simp [enrolled]
      · simp
      · simp
  | encoded id =>
    simp only [stage, Option.some.injEq] at taken
    subst taken
    have has : request.id = some id := tracked.own index request id present (by rw [stage]; rfl)
    have unset := tracked.unsent index request present (by rw [stage]; rfl)
    refine tracked.put present (Nat.le_refl _) rfl ?_ ?_ ?_ (Or.inl rfl) ?_ ?_ ?_ ?_ ?_ ?_
    · intro other drew
      exact has.trans drew
    · simp
    · simp [entered]
    · intro other differs
      refine AList.lookup_insert_ne fun same => differs ?_
      rw [same]
      exact has
    · intro other mine
      obtain rfl : id = other := Option.some.inj (has.symm.trans mine)
      exact Or.inr ⟨AList.lookup_insert _, rfl, unset⟩
    · intro holds
      obtain ⟨_, entry, kept, went⟩ := tracked.held index holds
      obtain rfl : request = entry := Option.some.inj (present.symm.trans kept)
      rw [stage] at went
      cases went
    · intro other listed
      obtain rfl := Option.some.inj listed
      exact Or.inr (Or.inr (Or.inl (AList.lookup_insert _)))
    · simp
    · simp
  | registered id =>
    simp only [stage] at taken
    have follows : Follows request.stage (.queued id) := by
      rw [stage]
      exact ⟨by simp [drawn], by simp, rfl, by simp [entered]⟩
    have refuses : ∀ full, Follows request.stage (.refused id full) := by
      intro full
      rw [stage]
      exact ⟨by simp [drawn], by simp, rfl, by simp [entered]⟩
    split at taken
    · split at taken
      · obtain rfl := (Option.some.inj taken).symm
        exact tracked.stay present rfl rfl follows (by simp) (by simp)
      · obtain rfl := (Option.some.inj taken).symm
        exact tracked.stay present rfl rfl (refuses true) (by simp) (by simp)
    · obtain rfl := (Option.some.inj taken).symm
      exact tracked.stay present rfl rfl (refuses false) (by simp) (by simp)
  | refused id full =>
    simp only [stage, Option.some.injEq] at taken
    subst taken
    have has : request.id = some id := tracked.own index request id present (by rw [stage]; rfl)
    have erased := fun other (differs : other ≠ id) =>
      (AList.lookup_erase_ne differs : (s.pending.erase id).lookup other = s.pending.lookup other)
    cases full with
    | true =>
      refine tracked.leave present has rfl rfl rfl rfl (AList.lookup_erase id s.pending) erased ?_
      intro completion same
      obtain rfl := Stage.completed.inj same
      exact Or.inl rfl
    | false =>
      exact tracked.leave present has rfl rfl rfl rfl (AList.lookup_erase id s.pending) erased
        (by simp)
  | queued id =>
    simp only [stage, Option.some.injEq] at taken
    subst taken
    cases closed : s.closed with
    | true =>
      refine tracked.stay present rfl rfl ?_ (by simp) (by simp)
      rw [stage]
      exact ⟨by simp [drawn], by simp, rfl, by simp [entered]⟩
    | false =>
      refine tracked.stay present rfl rfl ?_ ?_ (by simp)
      · rw [stage]
        exact ⟨by simp [drawn], by simp, rfl, by simp [entered]⟩
      · -- Whoever empties the map now has set the flag this call just saw unset.
        intro _ _ _ drained
        obtain ⟨closing, member, past⟩ := drained
        rw [tracked.flagged closing member (Or.inr past)] at closed
        cases closed
  | withdrawing id =>
    simp only [stage] at taken
    have has : request.id = some id := tracked.own index request id present (by rw [stage]; rfl)
    split at taken
    · obtain rfl := (Option.some.inj taken).symm
      exact tracked.leave present has rfl rfl rfl rfl (AList.lookup_erase id s.pending)
        (fun other differs => AList.lookup_erase_ne differs) (by simp)
    · next gone =>
      obtain rfl := (Option.some.inj taken).symm
      refine tracked.stay present rfl rfl ?_ ?_ (by simp)
      · rw [stage]
        exact ⟨by simp [drawn], by simp, rfl, by simp [entered]⟩
      · intro other same found
        obtain rfl := Stage.awaiting.inj same
        rw [AList.lookup_eq_none.mpr gone] at found
        cases found
  | awaiting id =>
    simp only [stage] at taken
    have has : request.id = some id := tracked.own index request id present (by rw [stage]; rfl)
    have gone : request.slot ≠ .unset → s.pending.lookup id = none := fun set =>
      (tracked.own_entry present has).resolve_right fun entry => set entry.2.2
    cases slot : request.slot with
    | unset => simp only [slot, reduceCtorEq] at taken
    | sent response result =>
      rw [slot] at gone
      simp only [slot, Option.some.injEq] at taken
      subst taken
      refine tracked.leave present has slot.symm rfl rfl rfl (gone (by simp)) (fun _ _ => rfl) ?_
      intro completion same
      obtain rfl := Stage.completed.inj same
      exact tracked.answered index request response result present slot
    | dropped =>
      rw [slot] at gone
      simp only [slot, Option.some.injEq] at taken
      subst taken
      exact tracked.leave present has slot.symm rfl rfl rfl (gone (by simp)) (fun _ _ => rfl)
        (by simp)
  | failing =>
    simp only [stage, Option.some.injEq] at taken
    subst taken
    refine tracked.stay present rfl rfl ?_ ?_ ?_
    · rw [stage]
      exact ⟨by simp [drawn], by simp, rfl, by simp [entered]⟩
    · simp
    · intro completion same
      obtain rfl := Stage.completed.inj same
      exact close_error_rightful s _
  | completed completion =>
    simp only [stage, reduceCtorEq] at taken

/-! ## Closing -/

variable {closers : List Closing} {closer : ℕ} {old new : Closing}

theorem drained_of_set (drained : Drained (closers.set closer new)) :
    Drained closers ∨ hasDrained new = true := by
  obtain ⟨closing, member, past⟩ := drained
  rcases List.mem_or_eq_of_mem_set member with kept | rfl
  · exact Or.inl ⟨closing, kept, past⟩
  · exact Or.inr past

theorem held_of_set (held : Held (closers.set closer new) index) :
    Held closers index ∨ ∃ senders, new = .dropping senders ∧ index ∈ senders := by
  obtain ⟨senders, member, inside⟩ := held
  rcases List.mem_or_eq_of_mem_set member with kept | rfl
  · exact Or.inl ⟨senders, kept, inside⟩
  · exact Or.inr ⟨senders, rfl, inside⟩

theorem held_set (present : closers[closer]? = some old) (held : Held closers index) :
    Held (closers.set closer new) index ∨ ∃ senders, old = .dropping senders ∧ index ∈ senders := by
  obtain ⟨senders, member, inside⟩ := held
  obtain ⟨position, found⟩ := List.mem_iff_getElem?.mp member
  by_cases same : position = closer
  · subst same
    exact Or.inr ⟨senders, Option.some.inj (present.symm.trans found), inside⟩
  · refine Or.inl ⟨senders, List.mem_iff_getElem?.mpr ⟨position, ?_⟩, inside⟩
    exact (set_entry present position _).mpr (Or.inr ⟨same, found⟩)

/-- A completed request keeps its result when the close reason is settled. -/
theorem Rightful.settled {completion : Completion Value} (rightful : Rightful s request completion)
    (responses : s.responses ⊆ after.responses)
    (reason : ∀ stored, s.closeReason = some stored → after.closeReason = some stored) :
    Rightful after request completion := by
  cases completion with
  | answered id result => exact ⟨rightful.1, responses rightful.2⟩
  | failed error =>
    rcases rightful with closed | ⟨stored, known, same⟩ | refused
    · exact Or.inl closed
    · exact Or.inr (Or.inl ⟨stored, reason stored known, same⟩)
    · exact Or.inr (Or.inr refused)

/-- A step of a closing that holds no senders before or after it. -/
theorem Tracked.closerMoves (tracked : Tracked s) (present : s.closers[closer]? = some old)
    (holdsNone : ∀ index, ¬ ∃ senders, old = .dropping senders ∧ index ∈ senders)
    (holdsNone' : ∀ index, ¬ ∃ senders, new = .dropping senders ∧ index ∈ senders)
    (past : hasDrained new = true → hasDrained old = true) {closed : Bool}
    {closeReason : Option CloseReason} (closedLater : s.closed = true → closed = true)
    (flagged : new = .draining ∨ hasDrained new = true → closed = true)
    (reasonKept : ∀ stored, s.closeReason = some stored → closeReason = some stored)
    (reason : new = .settingClosed ∨ new = .draining ∨ hasDrained new = true →
      closeReason ≠ none) :
    Tracked { s with
      closed := closed, closeReason := closeReason, closers := s.closers.set closer new } := by
  have drained : Drained (s.closers.set closer new) → Drained s.closers := by
    intro drained
    rcases drained_of_set drained with before | here
    · exact before
    · exact ⟨old, List.mem_of_getElem? present, past here⟩
  refine ⟨tracked.own, tracked.undrawn, tracked.unsent, tracked.fresh, tracked.distinct,
    tracked.entry, ?_, ?_, ?_, tracked.answered, ?_, ?_, ?_⟩
  · intro index held
    exact tracked.held index ((held_of_set held).resolve_right (holdsNone' index))
  · intro index request id found member
    rcases tracked.located index request id found member with sent | dropped | entry | held
    · exact Or.inl sent
    · exact Or.inr (Or.inl dropped)
    · exact Or.inr (Or.inr (Or.inl entry))
    · exact Or.inr (Or.inr (Or.inr
        ((held_set present held).resolve_right (holdsNone index))))
  · exact fun index request id found stage listed held =>
      tracked.waiting index request id found stage listed (drained held)
  · intro closing member started
    rcases List.mem_or_eq_of_mem_set member with kept | rfl
    · exact closedLater (tracked.flagged closing kept started)
    · exact flagged started
  · intro closing member started
    rcases List.mem_or_eq_of_mem_set member with kept | rfl
    · obtain ⟨stored, known⟩ :=
        Option.ne_none_iff_exists'.mp (tracked.reason closing kept started)
      rw [show closeReason = some stored from reasonKept stored known]
      simp
    · exact reason started
  · exact fun index request completion found stage =>
      (tracked.rightful index request completion found stage).settled (fun _ member => member)
        reasonKept

/-- One sender resolves or is dropped; no entry of its request is left. -/
theorem Tracked.reslot (tracked : Tracked s) (present : s.requests[index]? = some request)
    {change : Request Value → Request Value} {pending : AList (fun _ : ℕ => ℕ)}
    {closers : List Closing} {responses : List (ℕ × Except ServerError Value)}
    (stage : (change request).stage = request.stage) (id : (change request).id = request.id)
    (encoding : (change request).encoding = request.encoding)
    (wasEntered : entered request.stage = true)
    (settled : (∃ response result, (change request).slot = .sent response result) ∨
      (change request).slot = .dropped)
    (answered : ∀ response result, (change request).slot = .sent response result →
      request.id = some response ∧ (response, result) ∈ responses)
    (entries : ∀ id other, pending.lookup id = some other ↔
      s.pending.lookup id = some other ∧ other ≠ index)
    (more : s.responses ⊆ responses)
    (heldOf : ∀ other, Held closers other → Held s.closers other)
    (heldKept : ∀ other, other ≠ index → Held s.closers other → Held closers other)
    (ended : ∀ closing ∈ closers, closing ∈ s.closers ∨
      (hasDrained closing = true ∧ Drained s.closers)) :
    Tracked { s with
      requests := s.requests.modify index change, pending := pending, closers := closers
      responses := responses } := by
  have listed : ∀ (other : ℕ) (entry : Request Value),
      (s.requests.modify index change)[other]? = some entry ↔
        (other = index ∧ entry = change request) ∨
          (other ≠ index ∧ s.requests[other]? = some entry) :=
    fun other entry => modify_entry change present other entry
  have drained : Drained closers → Drained s.closers := by
    rintro ⟨closing, member, past⟩
    rcases ended closing member with kept | ⟨_, before⟩
    · exact ⟨closing, kept, past⟩
    · exact before
  have idAt : ∀ (other : ℕ) (entry : Request Value) (number : ℕ),
      (s.requests.modify index change)[other]? = some entry → entry.id = some number →
        ∃ was : Request Value, s.requests[other]? = some was ∧ was.id = some number := by
    intro other entry number found has
    rcases (listed other entry).mp found with ⟨rfl, rfl⟩ | ⟨_, kept⟩
    · exact ⟨request, present, id ▸ has⟩
    · exact ⟨entry, kept, has⟩
  refine ⟨?_, ?_, ?_, ?_, ?_, ?_, ?_, ?_, ?_, ?_, ?_, ?_, ?_⟩
  · intro other entry number found drew
    rcases (listed other entry).mp found with ⟨rfl, rfl⟩ | ⟨_, kept⟩
    · rw [id]
      rw [stage] at drew
      exact tracked.own other request number present drew
    · exact tracked.own other entry number kept drew
  · intro other entry found early
    rcases (listed other entry).mp found with ⟨rfl, rfl⟩ | ⟨_, kept⟩
    · rw [id]
      rw [stage] at early
      exact tracked.undrawn other request present early
    · exact tracked.undrawn other entry kept early
  · intro other entry found early
    rcases (listed other entry).mp found with ⟨rfl, rfl⟩ | ⟨_, kept⟩
    · rw [stage, wasEntered] at early
      cases early
    · exact tracked.unsent other entry kept early
  · intro other entry number found has
    obtain ⟨was, kept, had⟩ := idAt other entry number found has
    exact tracked.fresh other was number kept had
  · intro first second one other number firstFound secondFound firstHas secondHas
    obtain ⟨_, kept, had⟩ := idAt first one number firstFound firstHas
    obtain ⟨_, kept', had'⟩ := idAt second other number secondFound secondHas
    exact tracked.distinct first second _ _ number kept kept' had had'
  · intro number other found
    obtain ⟨before, differs⟩ := (entries number other).mp found
    obtain ⟨entry, kept, member, unset⟩ := tracked.entry number other before
    exact ⟨entry, (listed other entry).mpr (Or.inr ⟨differs, kept⟩), member, unset⟩
  · intro other held
    obtain ⟨absent, entry, kept, past⟩ := tracked.held other (heldOf other held)
    refine ⟨fun number found => absent number ((entries number other).mp found).1, ?_⟩
    by_cases here : other = index
    · subst here
      exact ⟨change request, (listed other _).mpr (Or.inl ⟨rfl, rfl⟩), stage.symm ▸ wasEntered⟩
    · exact ⟨entry, (listed other entry).mpr (Or.inr ⟨here, kept⟩), past⟩
  · intro other entry number found member
    rcases (listed other entry).mp found with ⟨rfl, rfl⟩ | ⟨differs, kept⟩
    · exact settled.elim Or.inl fun dropped => Or.inr (Or.inl dropped)
    · rcases tracked.located other entry number kept member with sent | dropped | here | held
      · exact Or.inl sent
      · exact Or.inr (Or.inl dropped)
      · exact Or.inr (Or.inr (Or.inl ((entries number other).mpr ⟨here, differs⟩)))
      · exact Or.inr (Or.inr (Or.inr (heldKept other differs held)))
  · intro other entry number found waits here past
    obtain ⟨before, differs⟩ := (entries number other).mp here
    rcases (listed other entry).mp found with ⟨same, _⟩ | ⟨_, kept⟩
    · exact differs same
    · exact tracked.waiting other entry number kept waits before (drained past)
  · intro other entry number result found sent
    rcases (listed other entry).mp found with ⟨rfl, rfl⟩ | ⟨_, kept⟩
    · rw [id]
      exact answered number result sent
    · obtain ⟨has, member⟩ := tracked.answered other entry number result kept sent
      exact ⟨has, more member⟩
  · intro closing member started
    rcases ended closing member with kept | ⟨_, before, inside, past⟩
    · exact tracked.flagged closing kept started
    · exact tracked.flagged before inside (Or.inr past)
  · intro closing member started
    rcases ended closing member with kept | ⟨_, before, inside, past⟩
    · exact tracked.reason closing kept started
    · exact tracked.reason before inside (Or.inr (Or.inr past))
  · intro other entry completion found completed
    rcases (listed other entry).mp found with ⟨rfl, rfl⟩ | ⟨_, kept⟩
    · rw [stage] at completed
      have rightful := tracked.rightful other request completion present completed
      cases completion with
      | answered number result => exact ⟨id.trans rightful.1, more rightful.2⟩
      | failed error =>
        unfold Rightful at rightful ⊢
        rw [encoding]
        exact rightful
    · exact (tracked.rightful other entry completion kept completed).settled more
        fun _ known => known

theorem entered_of_enrolled {stage : Stage Value} {id : ℕ} (member : enrolled stage = some id) :
    entered stage = true := by
  cases stage with
  | called => cases member
  | checked => cases member
  | encoded _ => cases member
  | _ => rfl

/-- The drain moves every sender of the pending map into the closer's hands. -/
theorem Tracked.drains (tracked : Tracked s) (present : s.closers[closer]? = some .draining) :
    Tracked { s with
      pending := ∅
      closers := s.closers.set closer (.dropping (s.pending.entries.map Sigma.snd)) } := by
  have inside := List.mem_of_getElem? present
  have moved : ∀ id index, s.pending.lookup id = some index →
      Held (s.closers.set closer (.dropping (s.pending.entries.map Sigma.snd))) index := by
    intro id index found
    refine ⟨_, List.mem_iff_getElem?.mpr ⟨closer, (set_entry present closer _).mpr
      (Or.inl ⟨rfl, rfl⟩)⟩, ?_⟩
    exact List.mem_map.mpr ⟨⟨id, index⟩, AList.mem_lookup_iff.mp found, rfl⟩
  refine ⟨tracked.own, tracked.undrawn, tracked.unsent, tracked.fresh, tracked.distinct, ?_, ?_, ?_,
    ?_, tracked.answered, ?_, ?_, tracked.rightful⟩
  · intro id index found
    simp at found
  · intro index held
    refine ⟨fun id found => by simp at found, ?_⟩
    rcases held_of_set held with before | ⟨senders, same, member⟩
    · exact (tracked.held index before).2
    · obtain rfl := Closing.dropping.inj same
      obtain ⟨⟨id, index⟩, listed, rfl⟩ := List.mem_map.mp member
      obtain ⟨request, found, enrolled, _⟩ :=
        tracked.entry id index (AList.mem_lookup_iff.mpr listed)
      exact ⟨request, found, entered_of_enrolled enrolled⟩
  · intro index request id found member
    rcases tracked.located index request id found member with sent | dropped | entry | held
    · exact Or.inl sent
    · exact Or.inr (Or.inl dropped)
    · exact Or.inr (Or.inr (Or.inr (moved id index entry)))
    · refine Or.inr (Or.inr (Or.inr ((held_set present held).resolve_right ?_)))
      rintro ⟨senders, same, _⟩
      cases same
  · intro index request id found stage listed
    simp at listed
  · intro closing member started
    rcases List.mem_or_eq_of_mem_set member with kept | rfl
    · exact tracked.flagged closing kept started
    · exact tracked.flagged .draining inside (Or.inl rfl)
  · intro closing member started
    rcases List.mem_or_eq_of_mem_set member with kept | rfl
    · exact tracked.reason closing kept started
    · exact tracked.reason .draining inside (Or.inr (Or.inl rfl))

theorem Tracked.drops {first : ℕ} {rest : List ℕ} (tracked : Tracked s)
    (present : s.closers[closer]? = some (.dropping (first :: rest))) :
    Tracked { s with
      requests := s.requests.modify first dropSender
      closers := s.closers.set closer (.dropping rest) } := by
  have inside := List.mem_of_getElem? present
  have drained : Drained s.closers := ⟨_, inside, rfl⟩
  have held : Held s.closers first := ⟨_, inside, List.mem_cons_self⟩
  obtain ⟨absent, request, found, past⟩ := tracked.held first held
  refine tracked.reslot found rfl rfl rfl past (Or.inr rfl) ?_ ?_ (fun _ member => member) ?_ ?_ ?_
  · exact fun response result sent => by cases sent
  · intro id other
    refine ⟨fun here => ⟨here, fun same => absent id (same ▸ here)⟩, fun here => here.1⟩
  · intro other holds
    rcases held_of_set holds with before | ⟨senders, same, member⟩
    · exact before
    · obtain rfl := Closing.dropping.inj same
      exact ⟨_, inside, List.mem_cons_of_mem _ member⟩
  · intro other differs holds
    have moves : Held (s.closers.set closer (.dropping rest)) other ∨
        ∃ senders, Closing.dropping (first :: rest) = .dropping senders ∧ other ∈ senders :=
      held_set present holds
    rcases moves with kept | ⟨senders, same, member⟩
    · exact kept
    · obtain rfl := Closing.dropping.inj same
      refine ⟨rest, List.mem_iff_getElem?.mpr ⟨closer, (set_entry present closer _).mpr
        (Or.inl ⟨rfl, rfl⟩)⟩, ?_⟩
      exact (List.mem_cons.mp member).resolve_left differs
  · intro closing member
    rcases List.mem_or_eq_of_mem_set member with kept | rfl
    · exact Or.inl kept
    · exact Or.inr ⟨rfl, drained⟩

theorem Tracked.advanceCloser (tracked : Tracked s) (present : s.closers[closer]? = some old)
    (taken : s.advanceCloser closer old = some after) : Tracked after := by
  have inside := List.mem_of_getElem? present
  unfold Connection.advanceCloser at taken
  cases old with
  | settingReason reason =>
    obtain rfl := (Option.some.inj taken).symm
    refine tracked.closerMoves present (by simp) (by simp) (by simp [hasDrained])
      (fun closed => closed) (by simp [hasDrained]) ?_ ?_
    · intro stored known
      rw [known]
      rfl
    · intro _ nothing
      cases known : s.closeReason with
      | none => simp [known] at nothing
      | some stored => simp [known] at nothing
  | settingClosed =>
    obtain rfl := (Option.some.inj taken).symm
    exact tracked.closerMoves present (by simp) (by simp) (by simp [hasDrained]) (fun _ => rfl)
      (fun _ => rfl) (fun _ known => known) fun _ => tracked.reason _ inside (Or.inl rfl)
  | draining =>
    obtain rfl := (Option.some.inj taken).symm
    exact tracked.drains present
  | dropping held =>
    cases held with
    | nil =>
      obtain rfl := (Option.some.inj taken).symm
      exact tracked.closerMoves present (by simp) (by simp) (by simp [hasDrained])
        (fun closed => closed) (fun _ => tracked.flagged _ inside (Or.inr rfl))
        (fun _ known => known) fun _ => tracked.reason _ inside (Or.inr (Or.inr rfl))
    | cons first rest =>
      obtain rfl := (Option.some.inj taken).symm
      exact tracked.drops present
  | endingEvents =>
    simp only at taken
    split at taken
    · next hub ended =>
      obtain rfl := (Option.some.inj taken).symm
      have moved : Tracked { s with closers := s.closers.set closer .finished } :=
        tracked.closerMoves present (by simp) (by simp) (by simp [hasDrained])
          (fun closed => closed) (fun _ => tracked.flagged _ inside (Or.inr rfl))
          (fun _ known => known) fun _ => tracked.reason _ inside (Or.inr (Or.inr rfl))
      exact moved.quiet ⟨rfl, rfl, Nat.le_refl _, rfl, rfl, rfl, Or.inl rfl, Or.inl⟩
    · cases taken
  | finished => cases taken

/-! ## The other steps -/

theorem Tracked.resolve (tracked : Tracked s) (id : ℕ) (result : Except ServerError Value) :
    Tracked (s.resolve id result) := by
  unfold Connection.resolve
  split
  · next index found =>
    obtain ⟨request, present, member, unset⟩ := tracked.entry id index found
    have has := tracked.own index request id present (drawn_of_enrolled member)
    refine tracked.reslot present rfl rfl rfl (entered_of_enrolled member)
      (Or.inl ⟨id, result, rfl⟩) ?_ ?_ (List.subset_append_left _ _) (fun _ held => held)
      (fun _ _ held => held) (fun _ kept => Or.inl kept)
    · intro response given sent
      obtain ⟨rfl, rfl⟩ := Slot.sent.inj sent
      exact ⟨has, List.mem_append_right _ (List.mem_singleton_self _)⟩
    · intro other holder
      by_cases same : other = id
      · subst same
        rw [AList.lookup_erase]
        constructor
        · intro nothing
          cases nothing
        · rintro ⟨here, differs⟩
          exact absurd (Option.some.inj (here.symm.trans found)) differs
      · rw [AList.lookup_erase_ne same]
        refine ⟨fun here => ⟨here, ?_⟩, fun here => here.1⟩
        rintro rfl
        obtain ⟨entry, kept, theirs, _⟩ := tracked.entry other holder here
        obtain rfl : entry = request := Option.some.inj (kept.symm.trans present)
        exact same (Option.some.inj (theirs.symm.trans member))
  · refine ⟨tracked.own, tracked.undrawn, tracked.unsent, tracked.fresh, tracked.distinct,
      tracked.entry, tracked.held, tracked.located, tracked.waiting, ?_, tracked.flagged,
      tracked.reason, ?_⟩
    · intro index request number given present sent
      obtain ⟨has, member⟩ := tracked.answered index request number given present sent
      exact ⟨has, List.mem_append_left _ member⟩
    · intro index request completion present stage
      exact (tracked.rightful index request completion present stage).settled
        (List.subset_append_left _ _) fun _ known => known

theorem Tracked.call (tracked : Tracked s) (encoding : Encoding) (subscribes : Bool) :
    Tracked { s with requests := s.requests ++ [.called encoding subscribes] } := by
  have listed : ∀ (index : ℕ) (request : Request Value),
      (s.requests ++ [.called encoding subscribes])[index]? = some request ↔
        s.requests[index]? = some request ∨
          (index = s.requests.length ∧ request = .called encoding subscribes) :=
    fun index request => append_entry _ _ index request
  refine ⟨?_, ?_, ?_, ?_, ?_, ?_, ?_, ?_, ?_, ?_, tracked.flagged, tracked.reason, ?_⟩
  · intro index request id found drew
    rcases (listed index request).mp found with kept | ⟨_, rfl⟩
    · exact tracked.own index request id kept drew
    · cases drew
  · intro index request found early
    rcases (listed index request).mp found with kept | ⟨_, rfl⟩
    · exact tracked.undrawn index request kept early
    · rfl
  · intro index request found early
    rcases (listed index request).mp found with kept | ⟨_, rfl⟩
    · exact tracked.unsent index request kept early
    · rfl
  · intro index request id found has
    rcases (listed index request).mp found with kept | ⟨_, rfl⟩
    · exact tracked.fresh index request id kept has
    · cases has
  · intro first second one other id firstFound secondFound firstHas secondHas
    rcases (listed first one).mp firstFound with kept | ⟨_, rfl⟩
    · rcases (listed second other).mp secondFound with kept' | ⟨_, rfl⟩
      · exact tracked.distinct first second one other id kept kept' firstHas secondHas
      · cases secondHas
    · cases firstHas
  · intro id index found
    obtain ⟨request, kept, rest⟩ := tracked.entry id index found
    exact ⟨request, (listed index request).mpr (Or.inl kept), rest⟩
  · intro index held
    obtain ⟨absent, request, kept, past⟩ := tracked.held index held
    exact ⟨absent, request, (listed index request).mpr (Or.inl kept), past⟩
  · intro index request id found member
    rcases (listed index request).mp found with kept | ⟨_, rfl⟩
    · exact tracked.located index request id kept member
    · cases member
  · intro index request id found stage
    rcases (listed index request).mp found with kept | ⟨_, rfl⟩
    · exact tracked.waiting index request id kept stage
    · cases stage
  · intro index request id result found sent
    rcases (listed index request).mp found with kept | ⟨_, rfl⟩
    · exact tracked.answered index request id result kept sent
    · cases sent
  · intro index request completion found stage
    rcases (listed index request).mp found with kept | ⟨_, rfl⟩
    · exact tracked.rightful index request completion kept stage
    · cases stage

theorem Tracked.register {fits : Value → Bool} (tracked : Tracked s)
    (present : s.requests[index]? = some request)
    (taken : s.register fits index request = some after) : Tracked after := by
  unfold Connection.register at taken
  split at taken
  · next value subscribes stream stage =>
    split at taken
    · obtain ⟨hub, _, rfl⟩ := Option.map_eq_some_iff.mp taken
      have kept : Tracked { s.put index { request with stream := some s.hub.channels.length } with
          queue := s.queue } := by
        refine tracked.stay present rfl rfl ⟨fun _ drew => drew, fun early => early, rfl,
          fun past => past⟩ ?_ ?_
        · exact fun id waits listed => tracked.waiting index request id present waits listed
        · intro completion completed
          have rightful := tracked.rightful index request completion present completed
          cases completion with
          | answered id result => exact rightful
          | failed error => exact rightful
      exact kept.quiet ⟨rfl, rfl, Nat.le_refl _, rfl, rfl, rfl, Or.inl rfl, Or.inl⟩
    · cases taken
  · cases taken

/-- What a step does to the requests, the pending map and the closing. -/
inductive Effect (fits : Value → Bool) (s after : Connection Value ε) : Label Value ε → Prop
  | call (encoding : Encoding) (subscribes : Bool)
      (same : after = { s with requests := s.requests ++ [.called encoding subscribes] }) :
      Effect fits s after (.call encoding subscribes)
  | advance (index : ℕ) (request : Request Value) (present : s.requests[index]? = some request)
      (taken : s.advance index request = some after) : Effect fits s after (.advance index)
  | register (index : ℕ) (request : Request Value) (present : s.requests[index]? = some request)
      (taken : s.register fits index request = some after) : Effect fits s after (.register index)
  | advanceCloser (closer : ℕ) (closing : Closing) (present : s.closers[closer]? = some closing)
      (taken : s.advanceCloser closer closing = some after) :
      Effect fits s after (.advanceCloser closer)
  | respond (id : ℕ) (result : Except ServerError Value)
      (holding : s.reader = .holding (.response id result))
      (same : after = { s.resolve id result with reader := .selecting }) :
      Effect fits s after .handle
  | quiet (label : Label Value ε) (quiet : Quiet s after) : Effect fits s after label

theorem Quiet.same (requests : after.requests = s.requests) (pending : after.pending = s.pending)
    (nextId : after.nextId = s.nextId) (closed : after.closed = s.closed)
    (closeReason : after.closeReason = s.closeReason) (responses : after.responses = s.responses)
    (closers : after.closers = s.closers) (broken : Broken after → Broken s) : Quiet s after :=
  ⟨requests, pending, Nat.le_of_eq nextId.symm, closed, closeReason, responses, Or.inl closers,
    fun holds => Or.inl (broken holds)⟩

/-- A step that starts one more closing. -/
theorem Quiet.starts {reason : CloseReason} (requests : after.requests = s.requests)
    (pending : after.pending = s.pending) (nextId : after.nextId = s.nextId)
    (closed : after.closed = s.closed) (closeReason : after.closeReason = s.closeReason)
    (responses : after.responses = s.responses)
    (closers : after.closers = s.closers ++ [.settingReason reason]) : Quiet s after :=
  ⟨requests, pending, Nat.le_of_eq nextId.symm, closed, closeReason, responses,
    Or.inr ⟨reason, closers⟩, fun _ => Or.inr (by simp [closers])⟩

theorem handle_effect {fits : Value → Bool} {frame : Frame Value ε}
    (holding : s.reader = .holding frame) (taken : s.handle frame = some after) :
    Effect fits s after .handle := by
  cases frame with
  | response id result =>
    obtain rfl := (Option.some.inj taken).symm
    exact .respond id result holding rfl
  | event payload =>
    obtain ⟨hub, _, rfl⟩ := Option.map_eq_some_iff.mp taken
    exact .quiet _ (.same rfl rfl rfl rfl rfl rfl rfl fun broken => broken)
  | malformed error =>
    obtain rfl := (Option.some.inj taken).symm
    exact .quiet _ (.starts rfl rfl rfl rfl rfl rfl rfl)

theorem step_effect {capacity : ℕ} {fits : Value → Bool} {label : Label Value ε}
    (taken : step capacity fits s label = some after) : Effect fits s after label := by
  unfold step at taken
  cases label with
  | call encoding subscribes => exact .call encoding subscribes (Option.some.inj taken).symm
  | advance index =>
    simp only at taken
    split at taken
    · next request present => exact .advance index request present taken
    · cases taken
  | register index =>
    simp only at taken
    split at taken
    · next request present => exact .register index request present taken
    · cases taken
  | fireAndForget =>
    obtain rfl := (Option.some.inj taken).symm
    exact .quiet _ ⟨rfl, rfl, Nat.le_succ _, rfl, rfl, rfl, Or.inl rfl, Or.inl⟩
  | close =>
    obtain rfl := (Option.some.inj taken).symm
    exact .quiet _ (.starts rfl rfl rfl rfl rfl rfl rfl)
  | advanceCloser closer =>
    simp only at taken
    split at taken
    · next closing present => exact .advanceCloser closer closing present taken
    · cases taken
  | dropShutdown =>
    simp only at taken
    split at taken
    · obtain rfl := (Option.some.inj taken).symm
      exact .quiet _ (.same rfl rfl rfl rfl rfl rfl rfl fun broken => broken)
    · cases taken
  | readLine frame =>
    simp only at taken
    split at taken
    · split at taken
      · obtain rfl := (Option.some.inj taken).symm
        exact .quiet _ (.same rfl rfl rfl rfl rfl rfl rfl fun broken => broken)
      · cases taken
    · cases taken
  | readEnd error =>
    simp only at taken
    split at taken
    · split at taken
      · obtain rfl := (Option.some.inj taken).symm
        exact .quiet _ (.starts rfl rfl rfl rfl rfl rfl rfl)
      · cases taken
    · cases taken
  | handle =>
    simp only at taken
    split at taken
    · next frame holding => exact handle_effect holding taken
    · cases taken
  | fanned =>
    simp only at taken
    split at taken
    · split at taken
      · obtain rfl := (Option.some.inj taken).symm
        exact .quiet _ (.same rfl rfl rfl rfl rfl rfl rfl fun broken => broken)
      · cases taken
    · cases taken
  | seeShutdown =>
    simp only at taken
    split at taken
    · split at taken
      · cases taken
      · obtain rfl := (Option.some.inj taken).symm
        exact .quiet _ (.starts rfl rfl rfl rfl rfl rfl rfl)
    · cases taken
  | recvLine =>
    simp only at taken
    split at taken
    · obtain rfl := (Option.some.inj taken).symm
      refine .quiet _ (.same rfl rfl rfl rfl rfl rfl rfl fun broken => ?_)
      rcases broken with gone | ended | ⟨closer, closing⟩
      · exact Or.inl gone
      · cases ended
      · cases closing
    · split at taken
      · cases taken
      · next gone =>
        obtain rfl := (Option.some.inj taken).symm
        exact .quiet _ (.same rfl rfl rfl rfl rfl rfl rfl fun _ =>
          Or.inl (Bool.not_eq_true _ ▸ gone))
    · cases taken
  | writeOk =>
    simp only at taken
    split at taken
    · obtain rfl := (Option.some.inj taken).symm
      refine .quiet _ (.same rfl rfl rfl rfl rfl rfl rfl fun broken => ?_)
      rcases broken with gone | ended | ⟨closer, closing⟩
      · exact Or.inl gone
      · cases ended
      · cases closing
    · cases taken
  | writeFails kind message =>
    simp only at taken
    split at taken
    · obtain rfl := (Option.some.inj taken).symm
      exact .quiet _ (.starts rfl rfl rfl rfl rfl rfl rfl)
    · cases taken
  | endWriter =>
    simp only at taken
    split at taken
    · next closer closing =>
      split at taken
      · obtain rfl := (Option.some.inj taken).symm
        exact .quiet _ (.same rfl rfl rfl rfl rfl rfl rfl fun _ =>
          Or.inr (Or.inr ⟨closer, closing⟩))
      · cases taken
    · cases taken
  | fanout label =>
    simp only at taken
    split at taken
    · obtain ⟨hub, _, rfl⟩ := Option.map_eq_some_iff.mp taken
      exact .quiet _ (.same rfl rfl rfl rfl rfl rfl rfl fun broken => broken)
    · cases taken

/-- Every step keeps track of the senders. -/
theorem tracked_step {capacity : ℕ} {fits : Value → Bool} {label : Label Value ε}
    (tracked : Tracked s) (taken : step capacity fits s label = some after) : Tracked after := by
  cases step_effect taken with
  | call encoding subscribes same => exact same ▸ tracked.call encoding subscribes
  | advance index request present moved => exact tracked.advance present moved
  | register index request present moved => exact tracked.register present moved
  | advanceCloser closer closing present moved => exact tracked.advanceCloser present moved
  | respond id result _ same =>
    subst same
    exact (tracked.resolve id result).quiet (.same rfl rfl rfl rfl rfl rfl rfl fun broken => broken)
  | quiet _ quiet => exact tracked.quiet quiet

theorem tracked_of_reachable {capacity : ℕ} {fits : Value → Bool}
    {allowed : Connection Value ε → Label Value ε → Prop}
    (reached : Reachable (machine ε capacity fits) allowed s) : Tracked s := by
  have kept : Inductive (machine ε capacity fits) allowed Tracked :=
    { start := Tracked.connect
      next := by
        intro s after label tracked _ taken
        have moved : step capacity fits s label = some after := taken
        exact tracked_step tracked moved }
  exact kept.holds reached

end ADesk.Client.Completion
