/- ADesk/Agent/Retries
   digest: The runtime carries a decision out once at most, however often its call is tried. -/

import ADesk.Agent.Execute

set_option autoImplicit false

namespace ADesk.Agent.Retries

open ADesk.Agent.Errors
open ADesk.Agent.Execute
open ADesk.Client.Completion (Tracked tracked_step)
open ADesk.Client.Lines (Wire Sole Spent Barred)
open ADesk.Client.Settled
open ADesk.Client.Transport (Completion Connection Encoding Request ServerError)
open ADesk.Foundation.Entries
open ADesk.Foundation.Execution

universe u v

variable {ε : Type u} {Value : Type v}
variable {a after : AgentLoop Value ε}
variable {capacity : ℕ} {fits : Value → Bool} {decodes : Call → Value → Except String Unit}
variable {config : LoopConfig}

/-! ## The calls of a decision -/

/-- The calls that the loop has still to make for the decision, the one at hand first. -/
def current : Phase → List Call
  | .ready calls _ | .calling _ calls _ => calls
  | .idle | .deciding | .failed _ => []

def underWay : Phase → Option ℕ
  | .calling request _ _ => some request
  | .ready _ _ | .idle | .deciding | .failed _ => none

theorem enrich_follows (config : LoopConfig) :
    ∀ call ∈ enrichAccessibility config, call.own = false := by
  intro call member
  unfold enrichAccessibility at member
  split at member
  · rw [List.mem_singleton.mp member]
    rfl
  · cases member

theorem observe_follows (config : LoopConfig) :
    ∀ call ∈ observeAfterInput config, call.own = false := by
  intro call member
  unfold observeAfterInput at member
  split at member
  · rcases List.mem_cons.mp member with rfl | enriching
    · rfl
    · exact enrich_follows config call enriching
  · cases member

/-- Only the first call of a decision carries it out. -/
theorem execute_follows (config : LoopConfig) (kind : ActionKind) :
    ∀ call ∈ (execute config kind).tail, call.own = false := by
  cases kind with
  | observe => exact enrich_follows config
  | click => exact observe_follows config
  | typeText => exact observe_follows config
  | keypress => exact observe_follows config
  | scroll => exact observe_follows config
  | accessibilityTree =>
    simp only [execute]
    split <;> simp
  | findAccessible =>
    simp only [execute]
    split <;> simp
  | invokeAccessibleAction =>
    simp only [execute]
    split <;> simp
  | _ => simp [execute]

/-! ## Attempts -/

/-- Of two attempts at carrying a decision out, the first is spent or the second is barred. -/
def Exclusive (w : Wire Value ε) (first second : Attempt) : Prop :=
  first.request ≠ second.request ∧
    (first.decision = second.decision → first.call.own = true → second.call.own = true →
      Spent w first.request ∨ Barred w second.request)

structure Attempts (a : AgentLoop Value ε) : Prop where
  placed : ∀ attempt ∈ a.attempts, attempt.request < a.wire.connection.requests.length
  numbered : ∀ attempt ∈ a.attempts, attempt.decision ≤ a.decisions
  apart : a.attempts.Pairwise (Exclusive a.wire)
  follow : ∀ call ∈ (current a.phase).tail, call.own = false
  settled : ∀ attempt ∈ a.attempts, attempt.decision = a.decisions → attempt.call.own = true →
    (∃ call ∈ current a.phase, call.own = true) →
      underWay a.phase = some attempt.request ∨ Spent a.wire attempt.request ∨
        a.wire.connection.closed = true

theorem Attempts.start : Attempts (AgentLoop.start : AgentLoop Value ε) where
  placed attempt member := by cases member
  numbered attempt member := by cases member
  apart := .nil
  follow call member := by cases member
  settled attempt member := by cases member

/-- A step of the wire keeps the attempts that are settled so. -/
theorem Attempts.moves {label : Client.Lines.Label Value ε} {wire : Wire Value ε}
    (attempts : Attempts a) (tracked : Tracked a.wire.connection)
    (taken : Client.Lines.step capacity fits a.wire label = some wire) :
    Attempts { a with wire := wire } where
  placed attempt member := Client.Lines.listed_step taken (attempts.placed attempt member)
  numbered := attempts.numbered
  apart := by
    refine attempts.apart.imp ?_
    rintro first second ⟨differ, settled⟩
    refine ⟨differ, fun same own other => ?_⟩
    rcases settled same own other with spent | barred
    · exact Or.inl (Client.Lines.spent_step tracked taken spent)
    · exact Or.inr (Client.Lines.barred_step tracked taken barred)
  follow := attempts.follow
  settled attempt member same own pending := by
    rcases attempts.settled attempt member same own pending with now | spent | closed
    · exact Or.inl now
    · exact Or.inr (Or.inl (Client.Lines.spent_step tracked taken spent))
    · exact Or.inr (Or.inr (Client.Lines.closed_step taken closed))

/-- The loop goes on with a decision, or with the next one. -/
theorem Attempts.turn (attempts : Attempts a) (wire : after.wire = a.wire)
    (made : after.attempts = a.attempts) (decisions : a.decisions ≤ after.decisions)
    (follow : ∀ call ∈ (current after.phase).tail, call.own = false)
    (settled : ∀ attempt ∈ a.attempts, attempt.decision = after.decisions →
      attempt.call.own = true → (∃ call ∈ current after.phase, call.own = true) →
        underWay after.phase = some attempt.request ∨ Spent a.wire attempt.request ∨
          a.wire.connection.closed = true) : Attempts after where
  placed := by
    rw [wire, made]
    exact attempts.placed
  numbered attempt member :=
    Nat.le_trans (attempts.numbered attempt (made ▸ member)) decisions
  apart := by
    rw [wire, made]
    exact attempts.apart
  follow := follow
  settled := by
    rw [wire, made]
    exact settled

/-- A phase with no call of a decision at hand. -/
theorem Attempts.rest (attempts : Attempts a) (wire : after.wire = a.wire)
    (made : after.attempts = a.attempts) (decisions : a.decisions ≤ after.decisions)
    (none' : current after.phase = []) : Attempts after := by
  refine attempts.turn wire made decisions ?_ ?_
  · rw [none']
    intro call member
    cases member
  · rw [none']
    rintro attempt _ _ _ ⟨call, member, _⟩
    cases member

theorem current_nextStep (config : LoopConfig) (a : AgentLoop Value ε) :
    current (a.nextStep config).phase = [] := by
  simp only [AgentLoop.nextStep]
  split <;> rfl

theorem Attempts.succeed {calls : List Call} (attempts : Attempts a)
    (follow : ∀ call ∈ calls, call.own = false) : Attempts (a.succeed config calls) := by
  cases calls with
  | nil =>
    refine attempts.rest rfl rfl (Nat.le_refl _) ?_
    exact current_nextStep config a
  | cons call rest =>
    refine attempts.turn rfl rfl (Nat.le_refl _) ?_ ?_
    · intro call member
      exact follow call (List.mem_of_mem_tail member)
    · rintro attempt _ _ _ ⟨call, member, own⟩
      rw [follow call member] at own
      cases own

/-- A new decision: nothing was tried for it yet. -/
theorem Attempts.decide {calls : List Call} (attempts : Attempts a)
    (follow : ∀ call ∈ calls.tail, call.own = false) :
    Attempts ({ a with decisions := a.decisions + 1 }.succeed config calls) := by
  cases calls with
  | nil => exact attempts.rest rfl rfl (Nat.le_succ _) (current_nextStep config _)
  | cons call rest =>
    refine attempts.turn rfl rfl (Nat.le_succ _) follow ?_
    intro attempt member same
    have before := attempts.numbered attempt member
    exact absurd same (Nat.ne_of_lt (Nat.lt_succ_of_le before))

theorem Attempts.fail (attempts : Attempts a) (error : Error) : Attempts (a.fail config error) := by
  unfold AgentLoop.fail
  simp only
  split
  · exact attempts.rest rfl rfl (Nat.le_refl _) rfl
  · split
    · exact attempts.rest rfl rfl (Nat.le_refl _) rfl
    · exact attempts.rest rfl rfl (Nat.le_refl _) (current_nextStep config a)

/-- A call ends: it may only be tried again when its last attempt is settled. -/
theorem Attempts.settle {request retry : ℕ} {calls : List Call} {result : Except Error Unit}
    (attempts : Attempts a) (phase : a.phase = .calling request calls retry)
    (released : ∀ error, result = .error error → error.class = .retryable →
      Spent a.wire request ∨ a.wire.connection.closed = true) :
    Attempts (a.settle config calls retry result) := by
  have follow : ∀ call ∈ calls.tail, call.own = false := by
    have rest := attempts.follow
    rw [phase] at rest
    exact rest
  cases result with
  | ok _ => exact attempts.succeed follow
  | error error =>
    simp only [AgentLoop.settle]
    split
    · next retried =>
      refine attempts.turn rfl rfl (Nat.le_refl _) follow ?_
      intro attempt member same own pending
      have before := attempts.settled attempt member same own
      rw [phase] at before
      rcases before pending with here | settled
      · obtain rfl : request = attempt.request := Option.some.inj here
        exact Or.inr (released error rfl retried.1)
      · exact Or.inr settled
    · exact attempts.fail error

/-- A call is tried: what was tried before is spent, or the new attempt is barred. -/
theorem Attempts.attempt {wire : Wire Value ε} {encoding : Encoding} {call : Call}
    {rest : List Call} {retry : ℕ} (attempts : Attempts a) (tracked : Tracked a.wire.connection)
    (phase : a.phase = .ready (call :: rest) retry)
    (taken : Client.Lines.step capacity fits a.wire (.transport (.call encoding false)) =
      some wire) :
    Attempts { a with
      wire := wire
      phase := .calling a.wire.connection.requests.length (call :: rest) retry
      attempts := a.attempts ++ [⟨a.decisions, call, a.wire.connection.requests.length⟩] } := by
  have moved := attempts.moves tracked taken
  have requests : wire.connection.requests =
      a.wire.connection.requests ++ [.called encoding false] := by
    rw [← Option.some.inj taken]
  have follow := attempts.follow
  have settled := attempts.settled
  rw [phase] at follow settled
  refine ⟨?_, ?_, ?_, follow, ?_⟩
  · intro attempt member
    rcases List.mem_append.mp member with old | new
    · exact moved.placed attempt old
    · rw [List.mem_singleton.mp new, requests]
      simp
  · intro attempt member
    rcases List.mem_append.mp member with old | new
    · exact attempts.numbered attempt old
    · rw [List.mem_singleton.mp new]
  · refine List.pairwise_append.mpr ⟨moved.apart, List.pairwise_singleton _ _, ?_⟩
    intro first member second new
    rw [List.mem_singleton.mp new]
    refine ⟨Nat.ne_of_lt (attempts.placed first member), fun same own other => ?_⟩
    rcases settled first member same own ⟨call, List.mem_cons_self, other⟩ with now | spent | closed
    · cases now
    · exact Or.inl (Client.Lines.spent_step tracked taken spent)
    · refine Or.inr ⟨Client.Lines.closed_step taken closed, .called encoding false, ?_, rfl,
        Or.inl rfl⟩
      rw [requests, List.getElem?_concat_length]
  · intro attempt member same own pending
    rcases List.mem_append.mp member with old | new
    · rcases settled attempt old same own pending with now | spent | closed
      · cases now
      · exact Or.inr (Or.inl (Client.Lines.spent_step tracked taken spent))
      · exact Or.inr (Or.inr (Client.Lines.closed_step taken closed))
    · rw [List.mem_singleton.mp new]
      exact Or.inl rfl

/-! ## Errors that are tried again -/

/-- An error the runtime answers a request with. -/
def FromRuntime (error : ServerError) : Prop :=
  ∃ failure message, error = errorResponse failure message

/-- Every error response that was read is one of the runtime. -/
structure Answered (s : Connection Value ε) : Prop where
  logged : ∀ id error, (id, .error error) ∈ s.responses → FromRuntime error
  held : ∀ id error, s.reader = .holding (.response id (.error error)) → FromRuntime error

theorem Answered.connect : Answered (Connection.connect : Connection Value ε) where
  logged id error member := by cases member
  held id error holding := by cases holding

theorem Answered.step {s t : Connection Value ε} {label : Client.Transport.Label Value ε}
    (answered : Answered s) (taken : Client.Transport.step capacity fits s label = some t)
    (lawful : ∀ id error, label = .readLine (.response id (.error error)) → FromRuntime error) :
    Answered t where
  logged id error member := by
    rcases Client.Lines.step_responses taken with same | ⟨new, result, holding, more⟩
    · exact answered.logged id error (same ▸ member)
    · rw [more] at member
      rcases List.mem_append.mp member with old | last
      · exact answered.logged id error old
      · obtain ⟨rfl, rfl⟩ := Prod.mk.inj (List.mem_singleton.mp last)
        exact answered.held id error holding
  held id error holding := by
    rcases Client.Lines.step_holding taken holding with before | read
    · exact answered.held id error before
    · exact lawful id error read

/-- A call is tried again only when it failed without an answer. -/
theorem retryable_failed {call : Call} {completion : Completion Value} {error : Error}
    (answered : ∀ id cause, completion = .answered id (.error cause) → FromRuntime cause)
    (result : outcome decodes call completion = .error error)
    (retryable : error.class = .retryable) : ∃ cause, completion = .failed cause := by
  cases completion with
  | failed cause => exact ⟨cause, rfl⟩
  | answered id response =>
    cases response with
    | ok value =>
      simp only [outcome, Completion.toResult] at result
      cases decoded : decodes call value with
      | ok _ =>
        rw [decoded] at result
        cases result
      | error reason =>
        rw [decoded] at result
        simp only at result
        split at result
        · cases result
        · rw [← Except.error.inj result] at retryable
          cases retryable
    | error cause =>
      obtain ⟨failure, message, rfl⟩ := answered id cause rfl
      simp only [outcome, Completion.toResult] at result
      split at result
      · cases result
      · rw [← Except.error.inj result] at retryable
        exact absurd retryable (error_response_not_retryable failure message)

/-! ## Runs of the loop -/

structure Sound (a : AgentLoop Value ε) : Prop where
  tracked : Tracked a.wire.connection
  sole : Sole a.wire
  answered : Answered a.wire.connection
  attempts : Attempts a

theorem Sound.start : Sound (AgentLoop.start : AgentLoop Value ε) :=
  ⟨.connect, .connect, .connect, .start⟩

/-- A step of the wire alone. -/
theorem Sound.wire {label : Client.Lines.Label Value ε} {wire : Wire Value ε} (sound : Sound a)
    (taken : Client.Lines.step capacity fits a.wire label = some wire)
    (lawful : ∀ id error, label = .transport (.readLine (.response id (.error error))) →
      FromRuntime error) : Sound { a with wire := wire } := by
  have sole := Client.Lines.sole_step sound.sole sound.tracked taken
  have attempts := sound.attempts.moves sound.tracked taken
  cases label with
  | serve id =>
    have same := Client.Lines.serve_keeps taken
    exact ⟨same ▸ sound.tracked, sole, same ▸ sound.answered, attempts⟩
  | transport label =>
    obtain ⟨connection, moved, rfl⟩ := Option.map_eq_some_iff.mp taken
    refine ⟨tracked_step sound.tracked moved, sole, sound.answered.step moved ?_, attempts⟩
    intro id error same
    exact lawful id error (congrArg _ same)

/-- A step of the loop alone. -/
theorem Sound.turns (sound : Sound a) (wire : after.wire = a.wire) (attempts : Attempts after) :
    Sound after :=
  ⟨wire ▸ sound.tracked, wire ▸ sound.sole, wire ▸ sound.answered, attempts⟩

theorem succeed_wire {calls : List Call} : (a.succeed config calls).wire = a.wire := by
  cases calls <;> rfl

theorem settle_wire {calls : List Call} {retry : ℕ} {result : Except Error Unit} :
    (a.settle config calls retry result).wire = a.wire := by
  cases result with
  | ok _ => exact succeed_wire
  | error error =>
    simp only [AgentLoop.settle, AgentLoop.fail]
    split
    · rfl
    · split
      · rfl
      · split <;> rfl

/-- A call completes: it is tried again only when the attempt is spent or the connection closed. -/
theorem Sound.resolves {request retry : ℕ} {call : Call} {rest : List Call}
    {completion : Completion Value} {made : Request Value} (sound : Sound a)
    (phase : a.phase = .calling request (call :: rest) retry)
    (present : a.wire.connection.requests[request]? = some made)
    (stage : made.stage = .completed completion) :
    Sound (a.settle config (call :: rest) retry (outcome decodes call completion)) := by
  refine sound.turns settle_wire (sound.attempts.settle phase ?_)
  intro error result retryable
  have answers : ∀ id cause, completion = .answered id (.error cause) → FromRuntime cause := by
    rintro id cause rfl
    have logged := sound.tracked.rightful request made _ present stage
    exact sound.answered.logged id cause logged.2
  obtain ⟨cause, rfl⟩ := retryable_failed answers result retryable
  exact sound.sole.spent_or_closed present stage

theorem sound_step {label : Label Value ε} (sound : Sound a)
    (taken : step capacity fits decodes config a label = some after) : Sound after := by
  unfold step at taken
  cases label with
  | run =>
    simp only at taken
    split at taken
    · obtain rfl := (Option.some.inj taken).symm
      refine sound.turns rfl (sound.attempts.rest rfl rfl (Nat.le_refl _) ?_)
      simp only
      split <;> rfl
    · cases taken
  | giveUp error =>
    simp only at taken
    split at taken
    · obtain rfl := (Option.some.inj taken).symm
      exact sound.turns rfl (sound.attempts.rest rfl rfl (Nat.le_refl _) rfl)
    · cases taken
  | decide kind =>
    simp only at taken
    split at taken
    · split at taken
      · obtain rfl := (Option.some.inj taken).symm
        exact sound.turns rfl (sound.attempts.rest rfl rfl (Nat.le_refl _) rfl)
      · obtain rfl := (Option.some.inj taken).symm
        refine sound.turns succeed_wire ?_
        exact sound.attempts.decide (execute_follows config kind)
    · cases taken
  | attempt encoding =>
    simp only at taken
    split at taken
    · next call rest retry phase =>
      obtain ⟨wire, moved, rfl⟩ := Option.map_eq_some_iff.mp taken
      have made := sound.wire moved (by simp)
      exact ⟨made.tracked, made.sole, made.answered,
        sound.attempts.attempt sound.tracked phase moved⟩
    · cases taken
  | resolve =>
    simp only at taken
    split at taken
    · next request call rest retry phase =>
      split at taken
      · next completion found =>
        obtain rfl := (Option.some.inj taken).symm
        obtain ⟨made, present, stage⟩ := Option.map_eq_some_iff.mp found
        exact sound.resolves phase present stage
      · cases taken
    · cases taken
  | stepTimeout =>
    simp only at taken
    split at taken
    · next request calls retry phase =>
      obtain rfl := (Option.some.inj taken).symm
      refine sound.turns settle_wire (sound.attempts.settle phase ?_)
      intro error same retryable
      rw [← Except.error.inj same] at retryable
      cases retryable
    · cases taken
  | transport label =>
    simp only at taken
    split at taken
    · next lawful =>
      obtain ⟨wire, moved, rfl⟩ := Option.map_eq_some_iff.mp taken
      refine sound.wire moved fun id error same => ?_
      obtain rfl := Client.Lines.Label.transport.inj same
      cases lawful
    · cases taken
  | answer id error message =>
    obtain ⟨wire, moved, rfl⟩ := Option.map_eq_some_iff.mp taken
    refine sound.wire moved fun other cause same => ?_
    simp only [Client.Lines.Label.transport.injEq, Client.Transport.Label.readLine.injEq,
      Client.Transport.Frame.response.injEq, Except.error.injEq] at same
    exact ⟨error, message, same.2.symm⟩
  | serve id =>
    obtain ⟨wire, moved, rfl⟩ := Option.map_eq_some_iff.mp taken
    exact sound.wire moved fun id error same => by cases same

theorem sound_of_reachable {allowed : AgentLoop Value ε → Label Value ε → Prop}
    (reached : Reachable (machine ε capacity fits decodes config) allowed a) : Sound a := by
  have kept : Inductive (machine ε capacity fits decodes config) allowed Sound :=
    { start := Sound.start
      next := by
        intro s after label sound _ taken
        have moved : step capacity fits decodes config s label = some after := taken
        exact sound_step sound moved }
  exact kept.holds reached

/-! ## A decision is carried out once -/

theorem pairwise_or {α : Type u} {R : α → α → Prop} {entries : List α}
    (pairs : entries.Pairwise R) {first second : α} (one : first ∈ entries)
    (other : second ∈ entries) : first = second ∨ R first second ∨ R second first :=
  List.Pairwise.forall_of_forall_of_flip
    (R := fun first second => first = second ∨ R first second ∨ R second first)
    (fun _ _ => Or.inl rfl) (pairs.imp fun before => Or.inr (Or.inl before))
    (pairs.imp fun before => Or.inr (Or.inr before)) one other

theorem carried {decision id : ℕ} (carries : a.carries decision id = true) :
    ∃ attempt ∈ a.attempts, attempt.decision = decision ∧ attempt.call.own = true ∧
      ∃ request, a.wire.connection.requests[attempt.request]? = some request ∧
        request.id = some id := by
  obtain ⟨attempt, member, holds⟩ := List.any_eq_true.mp carries
  simp only [Bool.and_eq_true, beq_iff_eq] at holds
  obtain ⟨⟨same, own⟩, named⟩ := holds
  obtain ⟨request, present, drew⟩ := Option.bind_eq_some_iff.mp named
  exact ⟨attempt, member, same, own, request, present, drew⟩

/-- Exclusive attempts do not both have a line out. -/
theorem Exclusive.absurd {first second : Attempt} {one other : Request Value} {id line : ℕ}
    (exclusive : Exclusive a.wire first second) (same : first.decision = second.decision)
    (own : first.call.own = true) (ownToo : second.call.own = true)
    (present : a.wire.connection.requests[first.request]? = some one)
    (presentToo : a.wire.connection.requests[second.request]? = some other)
    (drew : one.id = some id) (drewToo : other.id = some line) : a.wire.lines id = 0 := by
  rcases exclusive.2 same own ownToo with ⟨request, there, _, idle⟩ | ⟨_, request, there, none', _⟩
  · obtain rfl : request = one := Option.some.inj (there.symm.trans present)
    exact idle id drew
  · obtain rfl : request = other := Option.some.inj (there.symm.trans presentToo)
    cases none'.symm.trans drewToo

/-- Two requests that carry the same decision out and both have a line out are one. -/
theorem carries_alone (sound : Sound a) {decision one other : ℕ}
    (first : a.carries decision one = true) (second : a.carries decision other = true)
    (out : a.wire.lines one ≠ 0) (outToo : a.wire.lines other ≠ 0) : one = other := by
  obtain ⟨early, member, same, own, request, present, drew⟩ := carried first
  obtain ⟨late, memberToo, sameToo, ownToo, requestToo, presentToo, drewToo⟩ := carried second
  rcases pairwise_or sound.attempts.apart member memberToo with rfl | before | after
  · obtain rfl : request = requestToo := Option.some.inj (present.symm.trans presentToo)
    exact Option.some.inj (drew.symm.trans drewToo)
  · exact absurd (before.absurd (same.trans sameToo.symm) own ownToo present presentToo drew
      drewToo) out
  · exact absurd (after.absurd (sameToo.trans same.symm) ownToo own presentToo present drewToo
      drew) outToo

theorem served_lines {w : Wire Value ε} {id : ℕ} (served : id ∈ w.served) : w.lines id ≠ 0 := by
  have counted : 0 < w.served.count id := List.count_pos_iff.mpr served
  unfold Wire.lines
  omega

/-- Whatever the runtime answers, loses or leaves unanswered, and whenever steps time out: of the
requests the loop makes to carry a decision out, the runtime carries out at most one; and once it
has, no other one is queued, on its way or carried out. -/
theorem decision_carried_out_once (capacity : ℕ) (fits : Value → Bool)
    (decodes : Call → Value → Except String Unit) (config : LoopConfig) (a : AgentLoop Value ε)
    (reached : Reachable (machine ε capacity fits decodes config) anyStep a) (decision : ℕ) :
    a.wire.served.countP (a.carries decision) ≤ 1 ∧
      ∀ one other, one ∈ a.wire.served → a.carries decision one = true →
        a.carries decision other = true → other ≠ one →
          other ∉ a.wire.connection.queue ∧ other ∉ a.wire.sent ∧ other ∉ a.wire.served := by
  have sound := sound_of_reachable reached
  refine ⟨?_, ?_⟩
  · by_cases any : ∃ id ∈ a.wire.served, a.carries decision id = true
    · obtain ⟨id, served, carries⟩ := any
      have most : a.wire.served.countP (a.carries decision) ≤ a.wire.served.count id := by
        refine List.countP_mono_left fun other member second => ?_
        rw [beq_iff_eq]
        exact carries_alone sound second carries (served_lines member) (served_lines served)
      have single := sound.sole.once id
      unfold Wire.lines at single
      omega
    · have none' : a.wire.served.countP (a.carries decision) = 0 := by
        refine List.countP_eq_zero.mpr fun id member carries => any ⟨id, member, carries⟩
      omega
  · intro one other served first second differs
    have idle : a.wire.lines other = 0 := by
      by_contra out
      exact differs (carries_alone sound second first out (served_lines served))
    unfold Wire.lines at idle
    refine ⟨fun member => ?_, fun member => ?_, fun member => ?_⟩
    · have := List.count_pos_iff.mpr member
      omega
    · have := List.count_pos_iff.mpr member
      omega
    · have := List.count_pos_iff.mpr member
      omega

def loopConfig : LoopConfig := ⟨20, 30000, true, false, 3, 2⟩

/-- The answer to a click is lost with the connection, and the click is tried again. -/
def clickUnanswered : List (Label ℕ ℕ) :=
  [.run, .decide .click, .attempt .encodes, .transport (.advance 0), .transport (.advance 0),
    .transport (.advance 0), .transport (.advance 0), .transport (.advance 0),
    .transport .recvLine, .transport .writeOk, .serve 1,
    .transport (.readEnd (.io "ConnectionReset" "connection reset by peer")),
    .transport (.advanceCloser 0), .transport (.advanceCloser 0), .transport (.advanceCloser 0),
    .transport (.advanceCloser 0), .transport (.advanceCloser 0), .transport (.advance 0),
    .transport (.advance 0), .resolve, .attempt .encodes, .transport (.advance 1),
    .transport (.advance 1), .resolve, .attempt .encodes]

def clicking : Machine (AgentLoop ℕ ℕ) (Label ℕ ℕ) :=
  machine ℕ 4 (fun _ => true) (fun _ _ => .ok ()) loopConfig

theorem decision_carried_out_once_unanswered :
    ∃ a : AgentLoop ℕ ℕ, a.wire.served.countP (a.carries 1) = 1 ∧ a.attempts.length = 3 ∧
      a.wire.served.countP (a.carries 1) ≤ 1 := by
  have runs : (replay clicking anyStep clicking.init clickUnanswered).isSome = true := by decide
  have reached : Reachable clicking anyStep (finalState clicking anyStep clickUnanswered runs) :=
    final_state_reachable clicking anyStep clickUnanswered runs
  refine ⟨finalState clicking anyStep clickUnanswered runs, ?_, ?_, ?_⟩
  · rfl
  · rfl
  · exact (decision_carried_out_once 4 _ _ loopConfig _ reached 1).1

end ADesk.Agent.Retries
