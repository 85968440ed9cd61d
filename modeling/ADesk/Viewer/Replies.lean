/- ADesk/Viewer/Replies
   digest: Which answer completes a call: errors go to every call that listens, replies to the
   oldest waiter of their kind. -/

import ADesk.Foundation.Entries
import ADesk.Viewer.Calls
import Mathlib.Data.List.Basic

set_option autoImplicit false

namespace ADesk.Viewer.Replies

open ADesk.Foundation.Broadcast
open ADesk.Foundation.Entries
open ADesk.Foundation.Execution
open ADesk.Viewer.Calls
open scoped List

/-! ## Where an answer is -/

/-- The requests that have no answer at the client yet, in the order in which the answers to the
read requests come. -/
def pipeline (s : State) : List Ticket :=
  s.toClient.filterMap (·.origin) ++ (s.reads ++ s.toServer.filterMap (·.ticket))

/-- The calls of one kind among them. -/
def pipelineOf (s : State) (kind : Kind) : List ℕ :=
  ((pipeline s).filter (·.request.fifo = some kind)).map (·.call)

/-- The call gets the errors that the dispatcher receives. -/
def Call.listens (call : Call) : Bool :=
  match call.stage with
  | .subscribed | .registered | .sent => true
  | .started | .done _ => false

def unreadErrors (s : State) (call : Call) : List Answer :=
  if Call.listens call then s.errors.sent.drop call.errors.next else []

def unreadFrames (s : State) (call : Call) : List Answer :=
  if call.request = .requestFrame then s.frames.sent.drop call.frames.next else []

/-- What can complete the call. -/
def atHand (s : State) (call : Call) : List Answer :=
  call.reply.toList ++ (unreadErrors s call ++ unreadFrames s call)

/-! ## When calls and answers stay paired -/

/-- Every waiter registered before the call has written its message. -/
def WritesInTurn (s : State) (index : ℕ) : Prop :=
  ∀ call ∈ s.calls[index]?, ∀ kind ∈ call.request.fifo,
    ∀ other ∈ (s.fifo kind).takeWhile (· ≠ index), ∀ waiting ∈ s.calls[other]?,
      waiting.stage ≠ .registered

/-- The call is not dropped between its registration and its message, or before it takes the error
that answers it. -/
def DropsClean (s : State) (index : ℕ) : Prop :=
  ∀ call ∈ s.calls[index]?, call.stage ≠ .registered ∧
    (call.request.fifo.isSome = true → unreadErrors s call = [])

/-- A recording control is handled while no recording status is being read. -/
def HandledInTurn (s : State) : Prop :=
  ∀ message ∈ s.toServer.head?, ∀ ticket ∈ message.ticket,
    ticket.request.isRead = true ∨
      ∀ queued ∈ s.reads, queued.request.fifo ≠ ticket.request.fifo

/-- Only the call that the error answers listens, and it has not been dropped. -/
def ErrorAlone (s : State) (answer : Answer) : Prop :=
  (∀ index < s.calls.length, ∀ call ∈ s.calls[index]?, Call.listens call = true →
    answer.origin = some ⟨index, call.request⟩) ∧
  ∀ ticket ∈ answer.origin, ticket.request.fifo.isSome = true →
    ∀ call ∈ s.calls[ticket.call]?, Call.listens call = true

/-- Only the call that the frame answers asks for one. -/
def FrameAlone (s : State) (answer : Answer) : Prop :=
  ∀ index < s.calls.length, ∀ call ∈ s.calls[index]?, call.request = .requestFrame →
    call.over = false → answer.origin = some ⟨index, call.request⟩

/-- No waiter of the kind has an error that it has not taken. -/
def NoneFailed (s : State) (kind : Kind) : Prop :=
  ∀ index ∈ s.fifo kind, ∀ call ∈ s.calls[index]?, unreadErrors s call = []

def DeliveredAlone (s : State) (answer : Answer) : Prop :=
  match answer.content with
  | .error => ErrorAlone s answer
  | .frame => FrameAlone s answer
  | .reply kind => NoneFailed s kind
  | .acknowledged => True

/-- What a step needs so that no call takes the answer to another message. -/
def Paired (s : State) : Label → Prop
  | .call index .write => WritesInTurn s index
  | .call index .abandon => DropsClean s index
  | .readRequest _ => HandledInTurn s
  | .dispatch => ∀ answer ∈ s.toClient.head?, DeliveredAlone s answer
  | _ => True

instance (s : State) (index : ℕ) : Decidable (WritesInTurn s index) :=
  inferInstanceAs (Decidable (∀ call ∈ _, ∀ kind ∈ _, ∀ other ∈ _, ∀ waiting ∈ _, _))

instance (s : State) (index : ℕ) : Decidable (DropsClean s index) :=
  inferInstanceAs (Decidable (∀ call ∈ _, _ ∧ _))

instance (s : State) : Decidable (HandledInTurn s) :=
  inferInstanceAs (Decidable (∀ message ∈ _, ∀ ticket ∈ _, _ ∨ ∀ queued ∈ _, _))

instance (s : State) (answer : Answer) : Decidable (ErrorAlone s answer) :=
  inferInstanceAs (Decidable ((∀ index < _, ∀ call ∈ _, _ → _) ∧ ∀ ticket ∈ _, _ → ∀ call ∈ _, _))

instance (s : State) (answer : Answer) : Decidable (FrameAlone s answer) :=
  inferInstanceAs (Decidable (∀ index < _, ∀ call ∈ _, _ → _ → _))

instance (s : State) (kind : Kind) : Decidable (NoneFailed s kind) :=
  inferInstanceAs (Decidable (∀ index ∈ _, ∀ call ∈ _, _))

instance (s : State) (answer : Answer) : Decidable (DeliveredAlone s answer) :=
  match answer with
  | ⟨.error, origin⟩ => inferInstanceAs (Decidable (ErrorAlone s ⟨.error, origin⟩))
  | ⟨.frame, origin⟩ => inferInstanceAs (Decidable (FrameAlone s ⟨.frame, origin⟩))
  | ⟨.reply kind, _⟩ => inferInstanceAs (Decidable (NoneFailed s kind))
  | ⟨.acknowledged, _⟩ => isTrue trivial

instance (s : State) (label : Label) : Decidable (Paired s label) :=
  match label with
  | .call index .write => inferInstanceAs (Decidable (WritesInTurn s index))
  | .call index .abandon => inferInstanceAs (Decidable (DropsClean s index))
  | .readRequest _ => inferInstanceAs (Decidable (HandledInTurn s))
  | .dispatch => inferInstanceAs (Decidable (∀ answer ∈ _, _))
  | .call _ .subscribe | .call _ .register | .call _ .writeFails | .call _ .takeReply
  | .call _ .takeError | .call _ .takeFrame | .call _ .finish | .start _ | .input | .readInput _
  | .serve _ | .push _ | .disconnect => isTrue trivial

/-! ## Where the answers of a run are -/

/-- A reply and a frame answer a request of their own kind; a frame may answer none. -/
def Shaped (answer : Answer) : Prop :=
  match answer.content with
  | .frame => ∀ ticket ∈ answer.origin, ticket.request = .requestFrame
  | .reply kind => ∃ ticket, answer.origin = some ticket ∧ ticket.request.fifo = some kind
  | .error => True
  | .acknowledged => answer.origin = none

/-- A call that is not over has, once its message is written, one answer, under way or at hand,
and no other one is at hand. -/
structure Tracked (s : State) (index : ℕ) (call : Call) : Prop where
  errors : call.errors.next ≤ s.errors.sent.length
  frames : call.frames.next ≤ s.frames.sent.length
  own : ∀ answer ∈ atHand s call, answer.origin = some ⟨index, call.request⟩
  once : (pipeline s).count ⟨index, call.request⟩ + (atHand s call).length =
    if call.stage = .sent then 1 else 0

/-- The waiter belongs to a call that has not taken its error yet. -/
def Failed (s : State) (kind : Kind) (index : ℕ) : Prop :=
  ∃ call, s.calls[index]? = some call ∧ call.request.fifo = some kind ∧ call.stage = .sent ∧
    unreadErrors s call ≠ []

def Unwritten (s : State) (kind : Kind) (index : ℕ) : Prop :=
  ∃ call, s.calls[index]? = some call ∧ call.request.fifo = some kind ∧ call.stage = .registered

/-- The waiters of a kind: calls that failed, calls in the order in which their answers come, and
calls whose message is not written. -/
structure Lined (s : State) (kind : Kind) (failed unwritten : List ℕ) : Prop where
  split : s.fifo kind = failed ++ (pipelineOf s kind ++ unwritten)
  front : ∀ index ∈ failed, Failed s kind index
  back : ∀ index ∈ unwritten, Unwritten s kind index
  once : unwritten.Nodup

structure Accounted (s : State) : Prop where
  slots : 0 < s.errors.slots ∧ 0 < s.frames.slots
  known : ∀ ticket ∈ pipeline s, ∃ call, s.calls[ticket.call]? = some call ∧
    call.request = ticket.request
  shaped : ∀ answer ∈ s.toClient, Shaped answer
  tracked : ∀ index (call : Call), s.calls[index]? = some call → call.over = false → Tracked s index call
  answered : ∀ index (call : Call) (answer : Answer), s.calls[index]? = some call →
    call.stage = .done (.answered answer) → answer.origin = some ⟨index, call.request⟩
  lined : s.closed = false → ∀ kind, ∃ failed unwritten, Lined s kind failed unwritten
  registered : s.closed = false → ∀ index (call : Call) kind, s.calls[index]? = some call →
    call.request.fifo = some kind → call.stage = .registered → index ∈ s.fifo kind

theorem mem_pipeline_of {s : State} {kind : Kind} {index : ℕ} :
    index ∈ pipelineOf s kind ↔
      ∃ ticket ∈ pipeline s, ticket.request.fifo = some kind ∧ ticket.call = index := by
  simp [pipelineOf, and_assoc]

/-- A call that waits in a FIFO is of its kind. -/
theorem Accounted.kind_of_waiter {s : State} (accounted : Accounted s) (live : s.closed = false)
    {kind : Kind} {index : ℕ} {call : Call} (waits : index ∈ s.fifo kind)
    (present : s.calls[index]? = some call) : call.request.fifo = some kind := by
  obtain ⟨failed, unwritten, lined⟩ := accounted.lined live kind
  rw [lined.split, List.mem_append, List.mem_append] at waits
  rcases waits with member | member | member
  · obtain ⟨entry, found, same, _⟩ := lined.front index member
    exact Option.some.inj (found.symm.trans present) ▸ same
  · obtain ⟨ticket, under, same, rfl⟩ := mem_pipeline_of.mp member
    obtain ⟨entry, found, request⟩ := accounted.known ticket under
    rw [← Option.some.inj (found.symm.trans present), request]
    exact same
  · obtain ⟨entry, found, same, _⟩ := lined.back index member
    exact Option.some.inj (found.symm.trans present) ▸ same

/-! ### The queues move -/

/-- The queues of the session change, and no call does. -/
theorem accounted_queues {s : State} {toServer : List Message} {reads : List Ticket}
    {toClient : List Answer} (accounted : Accounted s)
    (perm : pipeline { s with toServer := toServer, reads := reads, toClient := toClient } ~
      pipeline s)
    (order : ∀ kind,
      pipelineOf { s with toServer := toServer, reads := reads, toClient := toClient } kind =
        pipelineOf s kind)
    (shaped : ∀ answer ∈ toClient, Shaped answer) :
    Accounted { s with toServer := toServer, reads := reads, toClient := toClient } where
  slots := accounted.slots
  known ticket under := accounted.known ticket (perm.mem_iff.mp under)
  shaped := shaped
  tracked index call present awake := by
    obtain ⟨errors, frames, own, once⟩ := accounted.tracked index call present awake
    refine ⟨errors, frames, own, ?_⟩
    rw [perm.count_eq]
    exact once
  answered := accounted.answered
  lined live kind := by
    obtain ⟨failed, unwritten, lined⟩ := accounted.lined live kind
    exact ⟨failed, unwritten, by rw [order kind]; exact lined.split, lined.front, lined.back,
      lined.once⟩
  registered := accounted.registered

/-- The pipeline of a kind when requests pass others of another kind. -/
theorem pipeline_of_eq {s t : State} (same : pipeline t = pipeline s) (kind : Kind) :
    pipelineOf t kind = pipelineOf s kind := by
  rw [pipelineOf, pipelineOf, same]

theorem shaped_answer (ticket : Ticket) (succeeds : Bool) : Shaped (ticket.answer succeeds) := by
  cases succeeds with
  | false => trivial
  | true =>
    unfold Shaped Ticket.answer Request.reply
    cases found : ticket.request.fifo with
    | none =>
      cases request : ticket.request <;> simp_all [Request.fifo]
    | some kind => exact ⟨ticket, rfl, found⟩

/-- A step that only moves the requests on keeps their order. -/
theorem accounted_order {s : State} {toServer : List Message} {reads : List Ticket}
    {toClient : List Answer} (accounted : Accounted s)
    (same : pipeline { s with toServer := toServer, reads := reads, toClient := toClient } =
      pipeline s)
    (shaped : ∀ answer ∈ toClient, Shaped answer) :
    Accounted { s with toServer := toServer, reads := reads, toClient := toClient } :=
  accounted_queues accounted (by rw [same]) (fun kind => pipeline_of_eq same kind) shaped

theorem Accounted.shaped_append {s : State} (accounted : Accounted s) {answers : List Answer}
    (fresh : ∀ answer ∈ answers, Shaped answer) :
    ∀ answer ∈ s.toClient ++ answers, Shaped answer := fun answer member =>
  (List.mem_append.mp member).elim (accounted.shaped answer) (fresh answer)

theorem accounted_read_input {s t : State} {applied : Applied} (accounted : Accounted s)
    (taken : step s (.readInput applied) = some t) : Accounted t := by
  simp only [step] at taken
  split at taken
  · next rest queue =>
    cases taken
    refine accounted_order accounted ?_ (accounted.shaped_append ?_)
    · cases applied <;> simp [pipeline, queue, Applied.answers, Message.ticket]
    · intro answer member
      cases applied with
      | recorded => exact List.mem_singleton.mp member ▸ rfl
      | unrecorded => cases member
      | refused => exact List.mem_singleton.mp member ▸ trivial
  · cases taken

/-- An inline request is answered before the read requests that came before it: they are of other
kinds. -/
theorem accounted_inline {s : State} {ticket : Ticket} {rest : List Message}
    (accounted : Accounted s) (queue : s.toServer = .request ticket :: rest)
    (alone : ∀ queued ∈ s.reads, queued.request.fifo ≠ ticket.request.fifo) (succeeds : Bool) :
    Accounted { s with toServer := rest, toClient := s.toClient ++ [ticket.answer succeeds] } := by
  have before : pipeline s = s.toClient.filterMap (·.origin) ++
      (s.reads ++ ticket :: rest.filterMap (·.ticket)) := by
    rw [pipeline, queue]
    rfl
  have after : pipeline { s with
      toServer := rest, toClient := s.toClient ++ [ticket.answer succeeds] } =
      s.toClient.filterMap (·.origin) ++ (ticket :: (s.reads ++ rest.filterMap (·.ticket))) := by
    simp [pipeline, Ticket.answer]
  refine accounted_queues accounted ?_ (fun kind => ?_) (accounted.shaped_append ?_)
  · rw [before, after]
    exact (List.perm_middle.symm).append_left _
  · rw [pipelineOf, pipelineOf, before, after]
    by_cases own : ticket.request.fifo = some kind
    · have none_read : s.reads.filter (·.request.fifo = some kind) = [] :=
        List.filter_eq_nil_iff.mpr fun queued member same =>
          alone queued member ((of_decide_eq_true same).trans own.symm)
      simp [List.filter_append, none_read, own]
    · simp [List.filter_append, own]
  · intro answer member
    exact List.mem_singleton.mp member ▸ shaped_answer ticket succeeds

theorem accounted_read_request {s t : State} {succeeds : Bool} (accounted : Accounted s)
    (handled : HandledInTurn s) (taken : step s (.readRequest succeeds) = some t) :
    Accounted t := by
  simp only [step] at taken
  split at taken
  · next ticket rest queue =>
    split at taken
    · cases taken
      refine accounted_order accounted ?_ accounted.shaped
      simp [pipeline, queue, Message.ticket]
    · next inline =>
      cases taken
      refine accounted_inline accounted queue ?_ succeeds
      exact (handled (.request ticket) (by rw [queue]; rfl) ticket rfl).resolve_left inline
  · cases taken

theorem accounted_serve {s t : State} {succeeds : Bool} (accounted : Accounted s)
    (taken : step s (.serve succeeds) = some t) : Accounted t := by
  simp only [step] at taken
  split at taken
  · next ticket rest queue =>
    cases taken
    refine accounted_order accounted ?_ (accounted.shaped_append ?_)
    · simp [pipeline, queue, Ticket.answer]
    · intro answer member
      exact List.mem_singleton.mp member ▸ shaped_answer ticket succeeds
  · cases taken

theorem accounted_push {s t : State} {succeeds : Bool} (accounted : Accounted s)
    (taken : step s (.push succeeds) = some t) : Accounted t := by
  cases taken
  refine accounted_order accounted ?_ (accounted.shaped_append ?_)
  · simp [pipeline]
  · intro answer member
    rw [List.mem_singleton.mp member]
    cases succeeds with
    | false => trivial
    | true => exact nofun

theorem accounted_input {s t : State} (accounted : Accounted s)
    (taken : step s .input = some t) : Accounted t := by
  cases taken
  refine accounted_order accounted ?_ accounted.shaped
  simp [pipeline, Message.ticket]

/-! ### The dispatcher -/

theorem pipeline_head {s : State} {answer : Answer} {rest : List Answer}
    (queue : s.toClient = answer :: rest) :
    pipeline s = answer.origin.toList ++ pipeline { s with toClient := rest } := by
  simp only [pipeline, queue, List.filterMap_cons]
  cases answer.origin <;> rfl

theorem pipeline_of_head {s : State} {answer : Answer} {rest : List Answer}
    (queue : s.toClient = answer :: rest) (kind : Kind) :
    pipelineOf s kind =
      ((answer.origin.toList).filter (·.request.fifo = some kind)).map (·.call) ++
        pipelineOf { s with toClient := rest } kind := by
  rw [pipelineOf, pipeline_head queue, List.filter_append, List.map_append]
  rfl

/-- The request that a call made is under way only once its message is written. -/
theorem Accounted.sent_of_pipeline {s : State} (accounted : Accounted s) {index : ℕ} {call : Call}
    (present : s.calls[index]? = some call) (awake : call.over = false)
    (under : ⟨index, call.request⟩ ∈ pipeline s) : call.stage = .sent ∧ atHand s call = [] := by
  have once := (accounted.tracked index call present awake).once
  have positive := List.count_pos_iff.mpr under
  by_cases sent : call.stage = .sent
  · rw [if_pos sent] at once
    exact ⟨sent, List.eq_nil_of_length_eq_zero (by omega)⟩
  · rw [if_neg sent] at once
    omega

theorem awake_of_listens {call : Call} (listens : Call.listens call = true) :
    call.over = false := by
  unfold Call.over
  split
  · next outcome stage => simp [Call.listens, stage] at listens
  · rfl

/-- An answer leaves the queue: it comes to the hand of the call that it answers, and of no
other. -/
theorem Tracked.head {s t : State} {index : ℕ} {call after : Call} {answer : Answer}
    (tracked : Tracked s index call) (parts : pipeline s = answer.origin.toList ++ pipeline t)
    (request : after.request = call.request) (stage : after.stage = call.stage)
    (errors : after.errors.next ≤ t.errors.sent.length)
    (frames : after.frames.next ≤ t.frames.sent.length)
    (comes : (answer.origin = some ⟨index, call.request⟩ ∧
        atHand t after ~ answer :: atHand s call) ∨
      (answer.origin ≠ some ⟨index, call.request⟩ ∧ atHand t after = atHand s call)) :
    Tracked t index after := by
  have once := tracked.once
  rw [parts, List.count_append] at once
  refine ⟨errors, frames, ?_, ?_⟩
  · intro entry member
    rw [request]
    rcases comes with ⟨own, hand⟩ | ⟨_, hand⟩
    · rcases List.mem_cons.mp (hand.mem_iff.mp member) with rfl | old
      · exact own
      · exact tracked.own entry old
    · exact tracked.own entry (hand ▸ member)
  · rw [request, stage, ← once]
    rcases comes with ⟨own, hand⟩ | ⟨other, hand⟩
    · rw [hand.length_eq, own, Option.toList_some, List.count_singleton_self, List.length_cons]
      omega
    · have absent : ⟨index, call.request⟩ ∉ answer.origin.toList := by simpa using other
      rw [hand, List.count_eq_zero.mpr absent, Nat.zero_add]

theorem accounted_error {s : State} {answer : Answer} {rest : List Answer} (accounted : Accounted s)
    (queue : s.toClient = answer :: rest) (alone : ErrorAlone s answer) :
    Accounted { s with toClient := rest, errors := s.errors.send answer } := by
  have parts : pipeline s = answer.origin.toList ++
      pipeline { s with toClient := rest, errors := s.errors.send answer } := pipeline_head queue
  have unread : ∀ call, Call.listens call = true → call.errors.next ≤ s.errors.sent.length →
      unreadErrors { s with toClient := rest, errors := s.errors.send answer } call =
        unreadErrors s call ++ [answer] := by
    intro call listens bound
    simp only [unreadErrors, listens, if_true, Channel.send]
    exact List.drop_append_of_le_length bound
  have longer : (s.errors.send answer).sent.length = s.errors.sent.length + 1 := by
    simp [Channel.send]
  refine ⟨accounted.slots, fun ticket under => ?_, fun entry member => ?_,
    fun index call present awake => ?_, accounted.answered, fun live kind => ?_,
    accounted.registered⟩
  · exact accounted.known ticket (parts ▸ List.mem_append_right _ under)
  · exact accounted.shaped entry (queue ▸ List.mem_cons_of_mem _ member)
  · have tracked := accounted.tracked index call present awake
    obtain ⟨bound, _⟩ := List.getElem?_eq_some_iff.mp present
    refine tracked.head parts rfl rfl (by rw [longer]; exact Nat.le_succ_of_le tracked.errors)
      tracked.frames ?_
    by_cases listens : Call.listens call = true
    · refine Or.inl ⟨alone.1 index bound call present listens, ?_⟩
      rw [atHand, unread call listens tracked.errors, atHand, List.append_assoc]
      exact (List.perm_middle.append_left _).trans List.perm_middle
    · refine Or.inr ⟨fun own => ?_, ?_⟩
      · -- a call that has only started has no message
        have under : (⟨index, call.request⟩ : Ticket) ∈ pipeline s := by rw [parts, own]; simp
        rw [Call.listens, (accounted.sent_of_pipeline present awake under).1] at listens
        exact listens rfl
      · simp only [atHand, unreadErrors, if_neg listens]
        rfl
  · obtain ⟨failed, unwritten, lined⟩ := accounted.lined live kind
    have still : ∀ index ∈ failed, Failed { s with
        toClient := rest, errors := s.errors.send answer } kind index := by
      intro index member
      obtain ⟨call, present, same, sent, unread_before⟩ := lined.front index member
      have listens : Call.listens call = true := by rw [Call.listens, sent]
      have tracked := accounted.tracked index call present (awake_of_listens listens)
      refine ⟨call, present, same, sent, ?_⟩
      rw [unread call listens tracked.errors]
      simp
    have split := lined.split
    rw [pipeline_of_head queue kind] at split
    cases origin : answer.origin with
    | none =>
      rw [origin] at split
      exact ⟨failed, unwritten, split, still, lined.back, lined.once⟩
    | some ticket =>
      rw [origin] at split
      by_cases own : ticket.request.fifo = some kind
      · refine ⟨failed ++ [ticket.call], unwritten, ?_, ?_, lined.back, lined.once⟩
        · rw [split]
          simp [own]
          rfl
        · intro index member
          rcases List.mem_append.mp member with old | new
          · exact still index old
          · -- the call that the error answers has not been dropped
            obtain rfl := List.mem_singleton.mp new
            have under : ticket ∈ pipeline s := by rw [parts, origin]; simp
            obtain ⟨call, present, request⟩ := accounted.known ticket under
            have listens := alone.2 ticket origin (by rw [own]; rfl) call present
            have awake := awake_of_listens listens
            have mine : (⟨ticket.call, call.request⟩ : Ticket) ∈ pipeline s := by
              rw [request]; exact under
            have sent := (accounted.sent_of_pipeline present awake mine).1
            refine ⟨call, present, request ▸ own, sent, ?_⟩
            rw [unread call listens (accounted.tracked _ call present awake).errors]
            simp
      · refine ⟨failed, unwritten, ?_, still, lined.back, lined.once⟩
        rw [split]
        simp [own]
        rfl

theorem accounted_frame {s : State} {answer : Answer} {rest : List Answer} (accounted : Accounted s)
    (queue : s.toClient = answer :: rest) (content : answer.content = .frame)
    (alone : FrameAlone s answer) :
    Accounted { s with toClient := rest, frames := s.frames.send answer } := by
  have parts : pipeline s = answer.origin.toList ++
      pipeline { s with toClient := rest, frames := s.frames.send answer } := pipeline_head queue
  have requests : ∀ ticket ∈ answer.origin, ticket.request = .requestFrame := by
    have shaped := accounted.shaped answer (queue ▸ List.mem_cons_self)
    rwa [Shaped, content] at shaped
  have longer : (s.frames.send answer).sent.length = s.frames.sent.length + 1 := by
    simp [Channel.send]
  refine ⟨accounted.slots, fun ticket under => ?_, fun entry member => ?_,
    fun index call present awake => ?_, accounted.answered, fun live kind => ?_,
    accounted.registered⟩
  · exact accounted.known ticket (parts ▸ List.mem_append_right _ under)
  · exact accounted.shaped entry (queue ▸ List.mem_cons_of_mem _ member)
  · have tracked := accounted.tracked index call present awake
    obtain ⟨bound, _⟩ := List.getElem?_eq_some_iff.mp present
    refine tracked.head parts rfl rfl tracked.errors
      (by rw [longer]; exact Nat.le_succ_of_le tracked.frames) ?_
    by_cases asks : call.request = .requestFrame
    · refine Or.inl ⟨alone index bound call present asks awake, ?_⟩
      have unread : unreadFrames { s with toClient := rest, frames := s.frames.send answer } call =
          unreadFrames s call ++ [answer] := by
        simp only [unreadFrames, asks, if_true, Channel.send]
        exact List.drop_append_of_le_length tracked.frames
      have hand : atHand { s with toClient := rest, frames := s.frames.send answer } call =
          atHand s call ++ [answer] := by
        rw [atHand, unread, atHand, List.append_assoc, List.append_assoc]
        rfl
      rw [hand]
      exact List.perm_append_singleton answer _
    · refine Or.inr ⟨fun own => asks (requests _ own), ?_⟩
      simp only [atHand, unreadFrames, if_neg asks]
      rfl
  · obtain ⟨failed, unwritten, lined⟩ := accounted.lined live kind
    have split := lined.split
    have other : (answer.origin.toList).filter (·.request.fifo = some kind) = [] := by
      refine List.filter_eq_nil_iff.mpr fun ticket member same => ?_
      rw [requests ticket (Option.mem_toList.mp member)] at same
      exact absurd same (by simp [Request.fifo])
    rw [pipeline_of_head queue kind, other] at split
    exact ⟨failed, unwritten, split, lined.front, lined.back, lined.once⟩

/-! ### One call changes -/

/-- What a step of one call leaves as it was. -/
structure Touches (s t : State) (index : ℕ) (call after : Call) : Prop where
  present : s.calls[index]? = some call
  entries : ∀ other entry, t.calls[other]? = some entry ↔
    (other = index ∧ entry = after) ∨ (other ≠ index ∧ s.calls[other]? = some entry)
  request : after.request = call.request
  errors : t.errors = s.errors
  frames : t.frames = s.frames
  closed : t.closed = s.closed

theorem Touches.failed {s t : State} {index other : ℕ} {call after : Call} {kind : Kind}
    (touches : Touches s t index call after) (distinct : other ≠ index)
    (failed : Failed s kind other) : Failed t kind other := by
  obtain ⟨entry, present, same, sent, unread⟩ := failed
  refine ⟨entry, (touches.entries other entry).mpr (Or.inr ⟨distinct, present⟩), same, sent, ?_⟩
  rw [unreadErrors, touches.errors]
  exact unread

theorem Touches.unwritten {s t : State} {index other : ℕ} {call after : Call} {kind : Kind}
    (touches : Touches s t index call after) (distinct : other ≠ index)
    (unwritten : Unwritten s kind other) : Unwritten t kind other := by
  obtain ⟨entry, present, same, stage⟩ := unwritten
  exact ⟨entry, (touches.entries other entry).mpr (Or.inr ⟨distinct, present⟩), same, stage⟩

theorem Touches.hand {s t : State} {index : ℕ} {call after : Call}
    (touches : Touches s t index call after) (entry : Call) : atHand t entry = atHand s entry := by
  simp only [atHand, unreadErrors, unreadFrames, touches.errors, touches.frames]

theorem Touches.accounted {s t : State} {index : ℕ} {call after : Call}
    (touches : Touches s t index call after) (accounted : Accounted s)
    (known : ∀ ticket ∈ pipeline t, ticket ∈ pipeline s ∨ ticket = ⟨index, call.request⟩)
    (counts : ∀ ticket, ticket.call ≠ index →
      (pipeline t).count ticket = (pipeline s).count ticket)
    (shaped : ∀ answer ∈ t.toClient, answer ∈ s.toClient)
    (tracked : after.over = false → Tracked t index after)
    (answered : ∀ answer, after.stage = .done (.answered answer) →
      answer.origin = some ⟨index, call.request⟩)
    (lined : s.closed = false → ∀ kind, ∃ failed unwritten, Lined t kind failed unwritten)
    (waits : s.closed = false → ∀ kind other, other ∈ s.fifo kind → other ≠ index →
      other ∈ t.fifo kind)
    (own : s.closed = false → ∀ kind, call.request.fifo = some kind → after.stage = .registered →
      index ∈ t.fifo kind) : Accounted t := by
  refine ⟨by rw [touches.errors, touches.frames]; exact accounted.slots, fun ticket under => ?_,
    fun answer member => accounted.shaped answer (shaped answer member),
    fun other entry found awake => ?_, fun other entry answer found ended => ?_,
    fun live => lined (touches.closed ▸ live), fun live other entry kind found same stage => ?_⟩
  · have before : ∃ entry, s.calls[ticket.call]? = some entry ∧ entry.request = ticket.request := by
      rcases known ticket under with old | rfl
      · exact accounted.known ticket old
      · exact ⟨call, touches.present, rfl⟩
    obtain ⟨entry, present, request⟩ := before
    by_cases same : ticket.call = index
    · refine ⟨after, (touches.entries _ _).mpr (Or.inl ⟨same, rfl⟩), ?_⟩
      rw [same, touches.present] at present
      rw [touches.request, ← request, Option.some.inj present]
    · exact ⟨entry, (touches.entries _ _).mpr (Or.inr ⟨same, present⟩), request⟩
  · rcases (touches.entries other entry).mp found with ⟨rfl, rfl⟩ | ⟨distinct, present⟩
    · exact tracked awake
    · obtain ⟨errors, frames, own, once⟩ := accounted.tracked other entry present awake
      rw [← touches.errors] at errors
      rw [← touches.frames] at frames
      rw [← touches.hand entry] at own once
      rw [← counts ⟨other, entry.request⟩ distinct] at once
      exact ⟨errors, frames, own, once⟩
  · rcases (touches.entries other entry).mp found with ⟨rfl, rfl⟩ | ⟨distinct, present⟩
    · rw [touches.request]
      exact answered answer ended
    · exact accounted.answered other entry answer present ended
  · have before : s.closed = false := touches.closed ▸ live
    rcases (touches.entries other entry).mp found with ⟨rfl, rfl⟩ | ⟨distinct, present⟩
    · exact own before kind (touches.request ▸ same) stage
    · exact waits before kind other (accounted.registered before other entry kind present same stage)
        distinct

/-- The request of a waiter in line, and what is known of the call. -/
theorem Accounted.not_failed {s : State} (accounted : Accounted s) {index : ℕ} {call : Call}
    (present : s.calls[index]? = some call) (under : ⟨index, call.request⟩ ∈ pipeline s)
    (kind : Kind) : ¬ Failed s kind index ∧ ¬ Unwritten s kind index := by
  constructor
  · rintro ⟨entry, found, _, sent, unread⟩
    obtain rfl := Option.some.inj (found.symm.trans present)
    have awake : entry.over = false := awake_of_listens (by rw [Call.listens, sent])
    have empty := (accounted.sent_of_pipeline present awake under).2
    rw [atHand, List.append_eq_nil_iff, List.append_eq_nil_iff] at empty
    exact unread empty.2.1
  · rintro ⟨entry, found, _, stage⟩
    obtain rfl := Option.some.inj (found.symm.trans present)
    have awake : entry.over = false := by rw [Call.over, stage]
    have sent := (accounted.sent_of_pipeline present awake under).1
    rw [stage] at sent
    cases sent

/-- The line of a kind when the answer to `ticket` leaves the queue. -/
theorem Lined.head {s : State} {answer : Answer} {rest : List Answer} {ticket : Ticket}
    {kind other : Kind} {failed unwritten : List ℕ} (lined : Lined s other failed unwritten)
    (queue : s.toClient = answer :: rest) (origin : answer.origin = some ticket)
    (own : ticket.request.fifo = some kind) :
    s.fifo other = failed ++ ((if other = kind then [ticket.call] else []) ++
      (pipelineOf { s with toClient := rest } other ++ unwritten)) := by
  rw [lined.split, pipeline_of_head queue other, origin]
  by_cases same : other = kind
  · simp [same, own]
  · simp [same, own, Ne.symm same]

/-- When no waiter has failed, the oldest one is the call that the reply answers. -/
theorem Accounted.oldest {s : State} {answer : Answer} {rest : List Answer} {ticket : Ticket}
    {kind : Kind} (accounted : Accounted s) (live : s.closed = false)
    (queue : s.toClient = answer :: rest) (origin : answer.origin = some ticket)
    (own : ticket.request.fifo = some kind) (none_failed : NoneFailed s kind) :
    ∃ unwritten, s.fifo kind = ticket.call ::
        (pipelineOf { s with toClient := rest } kind ++ unwritten) ∧
      (∀ index ∈ unwritten, Unwritten s kind index) ∧ unwritten.Nodup := by
  obtain ⟨failed, unwritten, lined⟩ := accounted.lined live kind
  have empty : failed = [] := by
    refine List.eq_nil_iff_forall_not_mem.mpr fun index member => ?_
    obtain ⟨entry, found, _, _, unread⟩ := lined.front index member
    exact unread (none_failed index (by rw [lined.split]; exact List.mem_append_left _ member) entry
      found)
  refine ⟨unwritten, ?_, lined.back, lined.once⟩
  rw [lined.head queue origin own, empty, if_pos rfl]
  rfl

theorem accounted_reply {s t : State} {answer : Answer} {rest : List Answer} {kind : Kind}
    (accounted : Accounted s) (live : s.closed = false) (queue : s.toClient = answer :: rest)
    (content : answer.content = .reply kind) (none_failed : NoneFailed s kind)
    (resolves : { s with toClient := rest }.resolve kind answer = t) : Accounted t := by
  obtain ⟨ticket, origin, own⟩ : ∃ ticket, answer.origin = some ticket ∧
      ticket.request.fifo = some kind := by
    have shaped := accounted.shaped answer (queue ▸ List.mem_cons_self)
    rwa [Shaped, content] at shaped
  obtain ⟨unwritten, oldest, back, once⟩ :=
    accounted.oldest live queue origin own none_failed
  simp only [State.resolve, oldest] at resolves
  have parts := pipeline_head queue
  have under : ticket ∈ pipeline s := by rw [parts, origin]; simp
  obtain ⟨call, present, request⟩ := accounted.known ticket under
  have mine : (⟨ticket.call, call.request⟩ : Ticket) ∈ pipeline s := by rw [request]; exact under
  have outside := accounted.not_failed present mine
  have touches : Touches s t ticket.call call { call with reply := some answer } := by
    subst resolves
    exact ⟨present, modify_entry _ present, rfl, rfl, rfl, rfl⟩
  have unmoved : ∀ other, pipelineOf t other = pipelineOf { s with toClient := rest } other := by
    subst resolves
    exact fun _ => rfl
  have fifo : t.fifo = Function.update s.fifo kind
      (pipelineOf { s with toClient := rest } kind ++ unwritten) := by subst resolves; rfl
  refine touches.accounted accounted (fun other member => Or.inl ?_) (fun other distinct => ?_)
    (fun entry member => ?_) (fun awake => ?_)
    (fun entry ended => accounted.answered _ call entry present ended) (fun _ other => ?_)
    (fun _ other index waits distinct => ?_) (fun _ other same stage => ?_)
  · subst resolves
    rw [parts]
    exact List.mem_append_right _ member
  · subst resolves
    rw [parts, List.count_append, origin]
    have absent : other ∉ (some ticket).toList := fun member =>
      distinct (congrArg Ticket.call (Option.some.inj (Option.mem_toList.mp member))).symm
    rw [List.count_eq_zero.mpr absent, Nat.zero_add]
    rfl
  · subst resolves
    exact queue ▸ List.mem_cons_of_mem _ member
  · have tracked := accounted.tracked _ call present awake
    have mine_origin : answer.origin = some ⟨ticket.call, call.request⟩ := by rw [origin, request]
    have nothing := (accounted.sent_of_pipeline present awake mine).2
    subst resolves
    refine tracked.head parts rfl rfl tracked.errors tracked.frames (Or.inl ⟨mine_origin, ?_⟩)
    rw [nothing]
    rw [atHand, List.append_eq_nil_iff] at nothing
    have hand : atHand s { call with reply := some answer } =
        answer :: (unreadErrors s call ++ unreadFrames s call) := rfl
    exact List.Perm.of_eq (hand.trans (by rw [nothing.2]))
  · obtain ⟨failed, unwritten_of, lined_of⟩ := accounted.lined live other
    by_cases same : other = kind
    · subst same
      refine ⟨[], unwritten, ?_, nofun, fun index member => ?_, once⟩
      · rw [fifo, Function.update_self, unmoved]
        rfl
      · refine touches.unwritten (fun same => ?_) (back index member)
        exact (outside other).2 (same ▸ back index member)
    · refine ⟨failed, unwritten_of, ?_, fun index member => ?_, fun index member => ?_, lined_of.once⟩
      · rw [fifo, Function.update_of_ne same, lined_of.head queue origin own, if_neg same, unmoved]
        rfl
      · refine touches.failed (fun same => ?_) (lined_of.front index member)
        exact (outside other).1 (same ▸ lined_of.front index member)
      · refine touches.unwritten (fun same => ?_) (lined_of.back index member)
        exact (outside other).2 (same ▸ lined_of.back index member)
  · rw [fifo]
    by_cases same : other = kind
    · subst same
      rw [Function.update_self]
      rw [oldest] at waits
      exact (List.mem_cons.mp waits).resolve_left distinct
    · rw [Function.update_of_ne same]
      exact waits
  · -- the call that is answered has written its message
    exact absurd ⟨call, present, same, stage⟩ (outside other).2

/-! ### The moves of a call -/

/-- A call moves without touching its FIFO or the wires. -/
theorem Touches.still {s t : State} {index : ℕ} {call after : Call}
    (touches : Touches s t index call after) (accounted : Accounted s) (fifo : t.fifo = s.fifo)
    (unmoved : pipeline t = pipeline s) (queue : t.toClient = s.toClient)
    (outside : ∀ kind, ¬ Failed s kind index ∧ ¬ Unwritten s kind index)
    (stage : after.stage ≠ .registered) (tracked : after.over = false → Tracked t index after)
    (answered : ∀ answer, after.stage = .done (.answered answer) →
      answer.origin = some ⟨index, call.request⟩) : Accounted t := by
  refine touches.accounted accounted (fun ticket under => Or.inl (unmoved ▸ under))
    (fun ticket _ => by rw [unmoved]) (fun answer member => queue ▸ member) tracked answered
    (fun live kind => ?_) (fun _ kind other waits _ => by rw [fifo]; exact waits)
    (fun _ _ _ registered => absurd registered stage)
  obtain ⟨failed, unwritten, lined⟩ := accounted.lined live kind
  refine ⟨failed, unwritten, ?_, fun other member => ?_, fun other member => ?_, lined.once⟩
  · rw [fifo, pipeline_of_eq unmoved]
    exact lined.split
  · refine touches.failed (fun same => ?_) (lined.front other member)
    exact (outside kind).1 (same ▸ lined.front other member)
  · refine touches.unwritten (fun same => ?_) (lined.back other member)
    exact (outside kind).2 (same ▸ lined.back other member)

/-- Neither of the two ends of a line holds a call at another stage. -/
theorem outside_of_stage {s : State} {index : ℕ} {call : Call}
    (present : s.calls[index]? = some call) (early : call.stage ≠ .sent)
    (unregistered : call.stage ≠ .registered) (kind : Kind) :
    ¬ Failed s kind index ∧ ¬ Unwritten s kind index := by
  constructor
  · rintro ⟨entry, found, _, sent, _⟩
    exact early (Option.some.inj (found.symm.trans present) ▸ sent)
  · rintro ⟨entry, found, _, stage⟩
    exact unregistered (Option.some.inj (found.symm.trans present) ▸ stage)

theorem not_unwritten_of_sent {s : State} {index : ℕ} {call : Call}
    (present : s.calls[index]? = some call) (sent : call.stage = .sent) (kind : Kind) :
    ¬ Unwritten s kind index := by
  rintro ⟨entry, found, _, stage⟩
  rw [Option.some.inj (found.symm.trans present), sent] at stage
  cases stage

theorem not_failed_of_read {s : State} {index : ℕ} {call : Call}
    (present : s.calls[index]? = some call) {kind : Kind}
    (read : call.request.fifo = some kind → unreadErrors s call = []) : ¬ Failed s kind index := by
  rintro ⟨entry, found, same, _, unread⟩
  obtain rfl := Option.some.inj (found.symm.trans present)
  exact unread (read same)

theorem put_touches {s : State} {index : ℕ} {call : Call}
    (present : s.calls[index]? = some call) (after : Call) (request : after.request = call.request) :
    Touches s (s.put index after) index call after :=
  ⟨present, set_entry present, request, rfl, rfl, rfl⟩

theorem accounted_subscribe {s t : State} {index : ℕ} {call : Call} (accounted : Accounted s)
    (present : s.calls[index]? = some call) (taken : perform s index call .subscribe = some t) :
    Accounted t := by
  obtain ⟨⟨stage, _⟩, same⟩ := Option.ite_none_right_eq_some.mp taken
  cases same
  have awake : call.over = false := by rw [Call.over, stage]
  have tracked := accounted.tracked index call present awake
  refine (put_touches present { call with stage := .subscribed, errors := s.errors.subscribe }
    rfl).still accounted rfl rfl rfl
    (outside_of_stage present (by simp [stage]) (by simp [stage])) nofun (fun _ => ?_) nofun
  have hand : atHand (s.put index { call with stage := .subscribed, errors := s.errors.subscribe })
      { call with stage := .subscribed, errors := s.errors.subscribe } = atHand s call := by
    simp [atHand, unreadErrors, unreadFrames, Call.listens, stage, Channel.subscribe, State.put]
  refine ⟨Nat.le_refl _, tracked.frames, fun answer member => ?_, ?_⟩
  · rw [hand] at member
    exact tracked.own answer member
  · rw [hand]
    have once := tracked.once
    rw [if_neg (by simp [stage])] at once
    exact once

theorem accounted_take_reply {s t : State} {index : ℕ} {call : Call} (accounted : Accounted s)
    (present : s.calls[index]? = some call) (taken : perform s index call .takeReply = some t) :
    Accounted t := by
  simp only [perform] at taken
  split at taken
  · next answer arrived =>
    obtain ⟨stage, same⟩ := Option.ite_none_right_eq_some.mp taken
    cases same
    have awake : call.over = false := by rw [Call.over, stage]
    have tracked := accounted.tracked index call present awake
    have hand : atHand s call = answer :: (unreadErrors s call ++ unreadFrames s call) := by
      rw [atHand, arrived]
      rfl
    refine (put_touches present { call with stage := .done (.answered answer) } rfl).still accounted
      rfl rfl rfl (fun kind => ⟨?_, ?_⟩) nofun nofun ?_
    · refine not_failed_of_read present fun _ => ?_
      have once := tracked.once
      rw [hand, if_pos stage, List.length_cons, List.length_append] at once
      exact List.eq_nil_of_length_eq_zero (by omega)
    · exact not_unwritten_of_sent present stage kind
    · intro other ended
      cases ended
      exact tracked.own answer (by rw [hand]; exact List.mem_cons_self)
  · cases taken

theorem accounted_abandon {s t : State} {index : ℕ} {call : Call} (accounted : Accounted s)
    (present : s.calls[index]? = some call) (clean : DropsClean s index)
    (taken : perform s index call .abandon = some t) : Accounted t := by
  obtain ⟨_, same⟩ := Option.ite_none_left_eq_some.mp taken
  cases same
  obtain ⟨stage, read⟩ := clean call present
  refine (put_touches present { call with stage := .done .dropped } rfl).still accounted rfl rfl rfl
    (fun kind => ⟨?_, ?_⟩) nofun nofun nofun
  · exact not_failed_of_read present fun same => read (by rw [same]; rfl)
  · rintro ⟨entry, found, _, registered⟩
    exact stage (Option.some.inj (found.symm.trans present) ▸ registered)

theorem accounted_take_frame {s t : State} {index : ℕ} {call : Call} (accounted : Accounted s)
    (present : s.calls[index]? = some call) (taken : perform s index call .takeFrame = some t) :
    Accounted t := by
  obtain ⟨⟨stage, asks⟩, received⟩ := Option.ite_none_right_eq_some.mp taken
  have awake : call.over = false := by rw [Call.over, stage]
  have tracked := accounted.tracked index call present awake
  have unread : unreadFrames s call = s.frames.sent.drop call.frames.next := by
    rw [unreadFrames, if_pos asks]
  have few : (s.frames.sent.drop call.frames.next).length ≤ 1 := by
    have once := tracked.once
    rw [if_pos stage, atHand, List.length_append, List.length_append, unread] at once
    omega
  split at received
  · next lagged => exact absurd lagged (not_lagged accounted.slots.2 few)
  · next answer cursor value =>
    cases received
    refine (put_touches present { call with stage := .done (.answered answer), frames := cursor }
      rfl).still accounted rfl rfl rfl (fun kind => ⟨?_, ?_⟩) nofun nofun ?_
    · exact not_failed_of_read present fun same => by rw [asks] at same; cases same
    · exact not_unwritten_of_sent present stage kind
    · intro other ended
      cases ended
      refine tracked.own answer (List.mem_append_right _ (List.mem_append_right _ ?_))
      rw [unread]
      exact recv_value_mem value
  · cases received

/-! ### Calls that leave their FIFO -/

theorem remove_touches {s : State} {index : ℕ} {call : Call}
    (present : s.calls[index]? = some call) (after : Call) (request : after.request = call.request) :
    Touches s ((s.put index after).remove index call.request) index call after := by
  unfold State.remove
  split <;> exact ⟨present, set_entry present, request, rfl, rfl, rfl⟩

theorem remove_fifo {s : State} (index : ℕ) (request : Request) (kind : Kind) :
    (s.remove index request).fifo kind =
      if request.fifo = some kind then (s.fifo kind).filter (· ≠ index) else s.fifo kind := by
  unfold State.remove
  split
  · next own found =>
    rw [found]
    by_cases same : own = kind
    · subst same
      rw [if_pos rfl]
      exact Function.update_self _ _ _
    · rw [if_neg (fun both => same (Option.some.inj both))]
      exact Function.update_of_ne (Ne.symm same) _ _
  · next found =>
    rw [found, if_neg nofun]

theorem remove_wires {s : State} (index : ℕ) (request : Request) :
    pipeline (s.remove index request) = pipeline s ∧
      (s.remove index request).toClient = s.toClient := by
  unfold State.remove
  split <;> exact ⟨rfl, rfl⟩

/-- A call whose answer is not under way ends and removes its waiter. -/
theorem accounted_gone {s : State} {index : ℕ} {call : Call} (accounted : Accounted s)
    (present : s.calls[index]? = some call) (after : Call) (request : after.request = call.request)
    (ended : after.over = true) (absent : s.closed = false → ⟨index, call.request⟩ ∉ pipeline s)
    (answered : ∀ answer, after.stage = .done (.answered answer) →
      answer.origin = some ⟨index, call.request⟩) :
    Accounted ((s.put index after).remove index call.request) := by
  have touches := remove_touches present after request
  obtain ⟨unmoved, queue⟩ := remove_wires (s := s.put index after) index call.request
  have fifo : s.closed = false → ∀ kind,
      ((s.put index after).remove index call.request).fifo kind =
        (s.fifo kind).filter (· ≠ index) := by
    intro live kind
    rw [remove_fifo]
    split
    · rfl
    · next other =>
      refine (List.filter_eq_self.mpr fun waiter waits => ?_).symm
      exact decide_eq_true fun same =>
        other (accounted.kind_of_waiter live (same ▸ waits) present)
  refine touches.accounted accounted (fun ticket under => Or.inl ?_) (fun ticket _ => ?_)
    (fun answer member => ?_) (fun awake => ?_) answered (fun live kind => ?_)
    (fun live kind other waits distinct => ?_) (fun _ _ _ registered => ?_)
  · rw [unmoved] at under
    exact under
  · rw [unmoved]
    rfl
  · rw [queue] at member
    exact member
  · rw [ended] at awake
    cases awake
  · obtain ⟨failed, unwritten, lined⟩ := accounted.lined live kind
    refine ⟨failed.filter (· ≠ index), unwritten.filter (· ≠ index), ?_, fun other member => ?_,
      fun other member => ?_, lined.once.filter _⟩
    · have kept : (pipelineOf s kind).filter (· ≠ index) = pipelineOf s kind := by
        refine List.filter_eq_self.mpr fun other member => decide_eq_true fun same => ?_
        obtain ⟨ticket, under, _, rfl⟩ := mem_pipeline_of.mp member
        obtain ⟨entry, found, request⟩ := accounted.known ticket under
        rw [same, present] at found
        refine absent live ?_
        rw [← same, Option.some.inj found, request]
        exact under
      rw [fifo live kind, lined.split, List.filter_append, List.filter_append, kept,
        pipeline_of_eq unmoved]
      rfl
    · obtain ⟨old, distinct⟩ := List.mem_filter.mp member
      exact touches.failed (of_decide_eq_true distinct) (lined.front other old)
    · obtain ⟨old, distinct⟩ := List.mem_filter.mp member
      exact touches.unwritten (of_decide_eq_true distinct) (lined.back other old)
  · rw [fifo live kind]
    exact List.mem_filter.mpr ⟨waits, decide_eq_true distinct⟩
  · rw [Call.over, registered] at ended
    cases ended

/-- A call whose message is not written has no answer under way. -/
theorem Accounted.absent_of_unsent {s : State} (accounted : Accounted s) {index : ℕ} {call : Call}
    (present : s.calls[index]? = some call) (awake : call.over = false)
    (unsent : call.stage ≠ .sent) : ⟨index, call.request⟩ ∉ pipeline s := fun under =>
  unsent (accounted.sent_of_pipeline present awake under).1

theorem writes_iff {call : Call} : call.writes = true ↔
    call.stage = .registered ∨ (call.stage = .subscribed ∧ call.request.fifo = none) := by
  simp [Call.writes]

theorem awake_of_writes {call : Call} (writes : call.writes = true) :
    call.over = false ∧ call.stage ≠ .sent := by
  rcases writes_iff.mp writes with stage | ⟨stage, _⟩ <;> simp [Call.over, stage]

theorem accounted_write_fails {s t : State} {index : ℕ} {call : Call} (accounted : Accounted s)
    (present : s.calls[index]? = some call) (taken : perform s index call .writeFails = some t) :
    Accounted t := by
  obtain ⟨writes, same⟩ := Option.ite_none_right_eq_some.mp taken
  cases same
  obtain ⟨awake, unsent⟩ := awake_of_writes writes
  exact accounted_gone accounted present { call with stage := .done .io } rfl rfl
    (fun _ => accounted.absent_of_unsent present awake unsent) nofun

theorem accounted_finish {s t : State} {index : ℕ} {call : Call} (accounted : Accounted s)
    (present : s.calls[index]? = some call) (taken : perform s index call .finish = some t) :
    Accounted t := by
  obtain ⟨⟨closed, _⟩, same⟩ := Option.ite_none_right_eq_some.mp taken
  cases same
  exact accounted_gone accounted present { call with stage := .done .closed } rfl rfl
    (fun live => by rw [closed] at live; cases live) nofun

theorem accounted_take_error {s t : State} {index : ℕ} {call : Call} (accounted : Accounted s)
    (present : s.calls[index]? = some call) (taken : perform s index call .takeError = some t) :
    Accounted t := by
  obtain ⟨stage, received⟩ := Option.ite_none_right_eq_some.mp taken
  have awake : call.over = false := by rw [Call.over, stage]
  have tracked := accounted.tracked index call present awake
  have once := tracked.once
  have unread : unreadErrors s call = s.errors.sent.drop call.errors.next := by
    simp only [unreadErrors, Call.listens, stage, if_true]
  rw [if_pos stage, atHand, List.length_append, List.length_append, unread] at once
  split at received
  · next lagged => exact absurd lagged (not_lagged accounted.slots.1 (by omega))
  · next answer cursor value =>
    cases received
    have member := recv_value_mem value
    refine accounted_gone accounted present
      { call with stage := .done (.answered answer), errors := cursor } rfl rfl (fun _ => ?_) ?_
    · have positive := List.length_pos_of_mem member
      exact List.count_eq_zero.mp (by omega)
    · intro other ended
      cases ended
      refine tracked.own answer (List.mem_append_right _ (List.mem_append_left _ ?_))
      rw [unread]
      exact member
  · cases received

/-! ### Calls that come to their FIFO and write -/

theorem accounted_register {s t : State} {index : ℕ} {call : Call} (accounted : Accounted s)
    (present : s.calls[index]? = some call) (taken : perform s index call .register = some t) :
    Accounted t := by
  simp only [perform] at taken
  split at taken
  · next kind own =>
    obtain ⟨stage, same⟩ := Option.ite_none_right_eq_some.mp taken
    have awake : call.over = false := by rw [Call.over, stage]
    have tracked := accounted.tracked index call present awake
    have outside := outside_of_stage present (by simp [stage]) (by simp [stage])
    have touches : Touches s t index call { call with stage := .registered } := by
      cases same
      exact ⟨present, set_entry present, rfl, rfl, rfl, rfl⟩
    have fifo : t.fifo = Function.update s.fifo kind (s.fifo kind ++ [index]) := by
      cases same
      rfl
    have unmoved : pipeline t = pipeline s := by
      cases same
      rfl
    have queue : t.toClient = s.toClient := by
      cases same
      rfl
    refine touches.accounted accounted (fun ticket under => Or.inl (unmoved ▸ under))
      (fun ticket _ => by rw [unmoved]) (fun answer member => queue ▸ member) (fun _ => ?_) nofun
      (fun live other => ?_) (fun _ other waiter waits _ => ?_) (fun _ other same _ => ?_)
    · have hand : atHand t { call with stage := .registered } = atHand s call := by
        rw [touches.hand]
        simp only [atHand, unreadErrors, unreadFrames, Call.listens, stage]
      refine ⟨by rw [touches.errors]; exact tracked.errors, by rw [touches.frames]; exact tracked.frames,
        fun answer member => tracked.own answer (hand ▸ member), ?_⟩
      have once := tracked.once
      rw [if_neg (by simp [stage])] at once
      rw [hand, unmoved]
      exact once
    · obtain ⟨failed, unwritten, lined⟩ := accounted.lined live other
      have front : ∀ waiter ∈ failed, Failed t other waiter := fun waiter member =>
        touches.failed (fun same => (outside other).1 (same ▸ lined.front waiter member))
          (lined.front waiter member)
      have back : ∀ waiter ∈ unwritten, Unwritten t other waiter := fun waiter member =>
        touches.unwritten (fun same => (outside other).2 (same ▸ lined.back waiter member))
          (lined.back waiter member)
      by_cases mine : other = kind
      · subst mine
        refine ⟨failed, unwritten ++ [index], ?_, front, fun waiter member => ?_, ?_⟩
        · rw [fifo, Function.update_self, lined.split, pipeline_of_eq unmoved]
          simp only [List.append_assoc]
        · rcases List.mem_append.mp member with old | new
          · exact back waiter old
          · rw [List.mem_singleton.mp new]
            exact ⟨_, (touches.entries _ _).mpr (Or.inl ⟨rfl, rfl⟩), own, rfl⟩
        · refine List.nodup_append.mpr ⟨lined.once, by simp, ?_⟩
          intro waiter old other new same
          rw [List.mem_singleton.mp new] at same
          exact (outside _).2 (same ▸ lined.back waiter old)
      · refine ⟨failed, unwritten, ?_, front, back, lined.once⟩
        rw [fifo, Function.update_of_ne mine, lined.split, pipeline_of_eq unmoved]
    · rw [fifo]
      by_cases mine : other = kind
      · subst mine
        rw [Function.update_self]
        exact List.mem_append_left _ waits
      · rw [Function.update_of_ne mine]
        exact waits
    · obtain rfl : kind = other := Option.some.inj (own.symm.trans same)
      rw [fifo, Function.update_self]
      exact List.mem_append_right _ (List.mem_singleton.mpr rfl)
  · cases taken

/-- The call that writes is the first waiter whose message is not written. -/
theorem Lined.first_unwritten {s : State} {index : ℕ} {call : Call} {kind : Kind}
    {failed unwritten : List ℕ} (accounted : Accounted s) (live : s.closed = false)
    (lined : Lined s kind failed unwritten) (turn : WritesInTurn s index)
    (present : s.calls[index]? = some call) (own : call.request.fifo = some kind)
    (stage : call.stage = .registered) : ∃ rest, unwritten = index :: rest := by
  have waits := accounted.registered live index call kind present own stage
  have before : ∀ waiter ∈ failed ++ pipelineOf s kind, waiter ≠ index := by
    rintro waiter member rfl
    rcases List.mem_append.mp member with front | under
    · obtain ⟨entry, found, _, sent, _⟩ := lined.front waiter front
      rw [Option.some.inj (found.symm.trans present), stage] at sent
      cases sent
    · obtain ⟨ticket, way, _, rfl⟩ := mem_pipeline_of.mp under
      obtain ⟨entry, found, request⟩ := accounted.known ticket way
      obtain rfl := Option.some.inj (found.symm.trans present)
      refine accounted.absent_of_unsent present (by rw [Call.over, stage]) (by simp [stage]) ?_
      rw [request]
      exact way
  have split := lined.split
  rw [← List.append_assoc] at split
  have member : index ∈ unwritten := by
    rw [split] at waits
    exact (List.mem_append.mp waits).resolve_left fun early => before index early rfl
  cases unwritten with
  | nil => cases member
  | cons head rest =>
    by_cases same : head = index
    · exact ⟨rest, by rw [same]⟩
    · -- an earlier waiter has not written
      obtain ⟨entry, found, _, registered⟩ := lined.back head List.mem_cons_self
      refine absurd registered (turn call present kind own head ?_ entry found)
      rw [split, List.takeWhile_append_of_pos fun waiter early => decide_eq_true (before waiter early),
        List.takeWhile_cons_of_pos (by simpa using same)]
      exact List.mem_append_right _ List.mem_cons_self

theorem accounted_write {s t : State} {index : ℕ} {call : Call} (accounted : Accounted s)
    (present : s.calls[index]? = some call) (turn : WritesInTurn s index)
    (taken : perform s index call .write = some t) : Accounted t := by
  obtain ⟨writes, same⟩ := Option.ite_none_right_eq_some.mp taken
  obtain ⟨awake, unsent⟩ := awake_of_writes writes
  have tracked := accounted.tracked index call present awake
  have touches : Touches s t index call { call with stage := .sent } := by
    cases same
    exact ⟨present, set_entry present, rfl, rfl, rfl, rfl⟩
  have longer : pipeline t = pipeline s ++ [⟨index, call.request⟩] := by
    cases same
    simp [pipeline, Message.ticket, State.put]
  have fifo : t.fifo = s.fifo := by
    cases same
    rfl
  have queue : t.toClient = s.toClient := by
    cases same
    rfl
  refine touches.accounted accounted (fun ticket under => ?_) (fun ticket distinct => ?_)
    (fun answer member => queue ▸ member) (fun _ => ?_) nofun (fun live kind => ?_)
    (fun _ kind other waits _ => by rw [fifo]; exact waits) nofun
  · rw [longer] at under
    exact (List.mem_append.mp under).imp_right List.mem_singleton.mp
  · have other : ticket ∉ [(⟨index, call.request⟩ : Ticket)] := fun member =>
      distinct (congrArg Ticket.call (List.mem_singleton.mp member))
    rw [longer, List.count_append, List.count_eq_zero.mpr other, Nat.add_zero]
  · have listens : Call.listens call = true := by
      rcases writes_iff.mp writes with stage | ⟨stage, _⟩ <;> rw [Call.listens, stage]
    have hand : atHand t { call with stage := .sent } = atHand s call := by
      rw [touches.hand]
      simp only [atHand, unreadErrors, unreadFrames, listens]
      rfl
    refine ⟨by rw [touches.errors]; exact tracked.errors, by rw [touches.frames]; exact tracked.frames,
      fun answer member => tracked.own answer (hand ▸ member), ?_⟩
    have once := tracked.once
    rw [if_neg unsent] at once
    have nothing := Nat.eq_zero_of_add_eq_zero once
    rw [hand, longer, List.count_append, nothing.2, if_pos rfl]
    simpa using nothing.1
  · obtain ⟨failed, unwritten, lined⟩ := accounted.lined live kind
    have front : ∀ waiter ∈ failed, Failed t kind waiter := by
      intro waiter member
      refine touches.failed (fun same => ?_) (lined.front waiter member)
      obtain ⟨entry, found, _, sent, _⟩ := lined.front waiter member
      rw [same, present] at found
      exact unsent (Option.some.inj found ▸ sent)
    by_cases own : call.request.fifo = some kind
    · have stage : call.stage = .registered := by
        rcases writes_iff.mp writes with stage | ⟨_, none_kind⟩
        · exact stage
        · rw [own] at none_kind
          cases none_kind
      obtain ⟨rest, rfl⟩ := lined.first_unwritten accounted live turn present own stage
      obtain ⟨fresh, once⟩ := List.nodup_cons.mp lined.once
      refine ⟨failed, rest, ?_, front, fun waiter member => ?_, once⟩
      · rw [fifo, lined.split]
        simp [pipelineOf, longer, own]
      · exact touches.unwritten (fun same => fresh (same ▸ member))
          (lined.back waiter (List.mem_cons_of_mem _ member))
    · refine ⟨failed, unwritten, ?_, front, fun waiter member => ?_, lined.once⟩
      · rw [fifo, lined.split]
        simp [pipelineOf, longer, own]
      · refine touches.unwritten (fun same => ?_) (lined.back waiter member)
        obtain ⟨entry, found, mine, _⟩ := lined.back waiter member
        rw [same, present] at found
        exact own (Option.some.inj found ▸ mine)

/-! ### Runs -/

theorem accounted_start {s t : State} {request : Request} (accounted : Accounted s)
    (taken : step s (.start request) = some t) : Accounted t := by
  obtain ⟨_, same⟩ := Option.ite_none_left_eq_some.mp taken
  cases same
  have old : ∀ {index : ℕ} {entry : Call}, s.calls[index]? = some entry →
      (s.calls ++ [⟨request, .started, ⟨0⟩, s.frames.subscribe, none⟩])[index]? = some entry :=
    fun found => (append_entry _ _ _ _).mpr (Or.inl found)
  refine ⟨accounted.slots, fun ticket under => ?_, accounted.shaped, fun index call found awake => ?_,
    fun index call answer found ended => ?_, fun live kind => ?_,
    fun live index call kind found same stage => ?_⟩
  · obtain ⟨entry, present, same⟩ := accounted.known ticket under
    exact ⟨entry, old present, same⟩
  · rcases (append_entry _ _ _ _).mp found with present | ⟨rfl, rfl⟩
    · obtain ⟨errors, frames, own, once⟩ := accounted.tracked index call present awake
      exact ⟨errors, frames, own, once⟩
    · -- nothing is under way for a new call
      have hand : atHand s ⟨request, .started, ⟨0⟩, s.frames.subscribe, none⟩ = [] := by
        simp [atHand, unreadErrors, unreadFrames, Call.listens, Channel.subscribe]
      have absent : (⟨s.calls.length, request⟩ : Ticket) ∉ pipeline s := fun under => by
        obtain ⟨entry, present, _⟩ := accounted.known _ under
        rw [List.getElem?_eq_none (Nat.le_refl _)] at present
        cases present
      refine ⟨Nat.zero_le _, Nat.le_refl _, fun answer member => ?_, ?_⟩
      · have nothing : answer ∈ atHand s ⟨request, .started, ⟨0⟩, s.frames.subscribe, none⟩ := member
        rw [hand] at nothing
        cases nothing
      · rw [if_neg nofun]
        exact Nat.add_eq_zero_iff.mpr ⟨List.count_eq_zero.mpr absent, congrArg List.length hand⟩
  · rcases (append_entry _ _ _ _).mp found with present | ⟨_, rfl⟩
    · exact accounted.answered index call answer present ended
    · cases ended
  · obtain ⟨failed, unwritten, lined⟩ := accounted.lined live kind
    refine ⟨failed, unwritten, lined.split, fun waiter member => ?_, fun waiter member => ?_,
      lined.once⟩
    · obtain ⟨entry, present, rest⟩ := lined.front waiter member
      exact ⟨entry, old present, rest⟩
    · obtain ⟨entry, present, rest⟩ := lined.back waiter member
      exact ⟨entry, old present, rest⟩
  · rcases (append_entry _ _ _ _).mp found with present | ⟨_, rfl⟩
    · exact accounted.registered live index call kind present same stage
    · cases stage

theorem accounted_dispatch {s t : State} (accounted : Accounted s)
    (paired : ∀ answer ∈ s.toClient.head?, DeliveredAlone s answer)
    (taken : step s .dispatch = some t) : Accounted t := by
  obtain ⟨closed, received⟩ := Option.ite_none_left_eq_some.mp taken
  have live : s.closed = false := Bool.eq_false_iff.mpr closed
  split at received
  · next answer rest queue =>
    have alone := paired answer (by rw [queue]; rfl)
    cases received
    unfold DeliveredAlone at alone
    unfold State.deliver
    cases content : answer.content with
    | frame =>
      rw [content] at alone
      have delivered := accounted_frame accounted queue content alone
      exact delivered
    | reply kind =>
      rw [content] at alone
      exact accounted_reply accounted live queue content alone rfl
    | error =>
      rw [content] at alone
      have delivered := accounted_error accounted queue alone
      exact delivered
    | acknowledged =>
      have origin : answer.origin = none := by
        have shaped := accounted.shaped answer (queue ▸ List.mem_cons_self)
        rwa [Shaped, content] at shaped
      refine accounted_order accounted ?_ fun entry member =>
        accounted.shaped entry (queue ▸ List.mem_cons_of_mem _ member)
      rw [pipeline_head queue, origin]
      rfl
  · cases received

theorem accounted_disconnect {s t : State} (accounted : Accounted s)
    (taken : step s .disconnect = some t) : Accounted t := by
  cases taken
  refine ⟨accounted.slots, accounted.known, accounted.shaped, fun index call present awake => ?_,
    accounted.answered, nofun, nofun⟩
  obtain ⟨errors, frames, own, once⟩ := accounted.tracked index call present awake
  exact ⟨errors, frames, own, once⟩

theorem accounted_call {s t : State} {index : ℕ} {act : Act} (accounted : Accounted s)
    (paired : Paired s (.call index act)) (taken : step s (.call index act) = some t) :
    Accounted t := by
  obtain ⟨call, present, performed⟩ := Option.bind_eq_some_iff.mp taken
  cases act with
  | subscribe => exact accounted_subscribe accounted present performed
  | register => exact accounted_register accounted present performed
  | write => exact accounted_write accounted present paired performed
  | writeFails => exact accounted_write_fails accounted present performed
  | takeReply => exact accounted_take_reply accounted present performed
  | takeError => exact accounted_take_error accounted present performed
  | takeFrame => exact accounted_take_frame accounted present performed
  | finish => exact accounted_finish accounted present performed
  | abandon => exact accounted_abandon accounted present paired performed

theorem accounted_new : Accounted State.new where
  slots := by decide
  known := nofun
  shaped := nofun
  tracked _ _ present := nomatch present
  answered _ _ _ present := nomatch present
  lined _ kind := ⟨[], [], rfl, nofun, nofun, List.nodup_nil⟩
  registered _ _ _ _ present := nomatch present

theorem accounted_of_reachable {s : State} (reached : Reachable machine Paired s) : Accounted s := by
  induction reached with
  | start => exact accounted_new
  | @next before after label _ paired taken accounted =>
    cases label with
    | start request => exact accounted_start accounted taken
    | call index act => exact accounted_call accounted paired taken
    | input => exact accounted_input accounted taken
    | readInput applied => exact accounted_read_input accounted taken
    | readRequest succeeds => exact accounted_read_request accounted paired taken
    | serve succeeds => exact accounted_serve accounted taken
    | push succeeds => exact accounted_push accounted taken
    | dispatch => exact accounted_dispatch accounted paired taken
    | disconnect => exact accounted_disconnect accounted taken

/-- While the steps keep calls and answers paired: a call that completes with an answer completes
with the answer to its own message; a call whose answer is not under way any more has exactly that
answer at hand; and once every call is over and nothing is under way, no waiter is left for a later
reply to find. -/
theorem calls_answered {s : State} (reached : Reachable machine Paired s) :
    (∀ index call, s.calls[index]? = some call →
      (∀ answer, call.stage = .done (.answered answer) →
        answer.origin = some ⟨index, call.request⟩) ∧
      (call.stage = .sent → ⟨index, call.request⟩ ∉ pipeline s →
        ∃ answer, atHand s call = [answer] ∧ answer.origin = some ⟨index, call.request⟩)) ∧
    (s.closed = false → (∀ call ∈ s.calls, call.over = true) → pipeline s = [] →
      ∀ kind, s.fifo kind = []) := by
  have accounted := accounted_of_reachable reached
  refine ⟨fun index call present => ⟨fun answer ended => ?_, fun sent absent => ?_⟩,
    fun live ended empty kind => ?_⟩
  · exact accounted.answered index call answer present ended
  · have tracked := accounted.tracked index call present (by rw [Call.over, sent])
    have once := tracked.once
    rw [List.count_eq_zero.mpr absent, if_pos sent, Nat.zero_add] at once
    obtain ⟨answer, hand⟩ := List.length_eq_one_iff.mp once
    exact ⟨answer, hand, tracked.own answer (by rw [hand]; exact List.mem_singleton.mpr rfl)⟩
  · obtain ⟨failed, unwritten, lined⟩ := accounted.lined live kind
    have awake : ∀ index (call : Call), s.calls[index]? = some call → call.over = false → False :=
      fun index call present awake => by
        rw [ended call (List.mem_of_getElem? present)] at awake
        cases awake
    have no_failed : failed = [] := List.eq_nil_iff_forall_not_mem.mpr fun index member => by
      obtain ⟨call, present, _, sent, _⟩ := lined.front index member
      exact awake index call present (by rw [Call.over, sent])
    have no_unwritten : unwritten = [] := List.eq_nil_iff_forall_not_mem.mpr fun index member => by
      obtain ⟨call, present, _, stage⟩ := lined.back index member
      exact awake index call present (by rw [Call.over, stage])
    rw [lined.split, no_failed, no_unwritten, pipelineOf, empty]
    rfl

/-- A call up to its message. -/
def calls (index : ℕ) (request : Request) : List Label :=
  [.start request, .call index .subscribe, .call index .register, .call index .write]

/-- Two state requests overlap, and an application is not known to the runtime after them. -/
def inTurn : State :=
  finalState machine Paired
    (calls 0 .requestState ++ calls 1 .requestState ++
      [.input, .readRequest true, .readRequest true, .readInput .recorded, .serve true, .serve true,
        .dispatch, .dispatch, .dispatch, .call 1 .takeReply, .call 0 .takeReply] ++
      calls 2 .launchApp ++ [.readRequest false, .dispatch, .call 2 .takeError])
    (by decide +kernel)

theorem calls_answered_in_turn :
    (∃ call, inTurn.calls[1]? = some call ∧
      (∀ answer, call.stage = .done (.answered answer) → answer.origin = some ⟨1, call.request⟩) ∧
      call.stage = .done (.answered ⟨.reply .state, some ⟨1, .requestState⟩⟩)) ∧
    ∀ kind, inTurn.fifo kind = [] := by
  have paired := calls_answered (final_state_reachable machine Paired _ (by decide +kernel) :
    Reachable machine Paired inTurn)
  have present : inTurn.calls[1]? = some ⟨.requestState,
      .done (.answered ⟨.reply .state, some ⟨1, .requestState⟩⟩), ⟨0⟩, ⟨0⟩,
      some ⟨.reply .state, some ⟨1, .requestState⟩⟩⟩ := by decide +kernel
  exact ⟨⟨_, present, (paired.1 1 _ present).1, rfl⟩,
    paired.2 (by decide +kernel) (by decide +kernel) (by decide +kernel)⟩

/-- The error that answers a launch fails the state request that is under way too; the late state
reply then answers the next state request. -/
def overlapping : State :=
  finalState machine anyStep
    (calls 0 .requestState ++ calls 1 .launchApp ++
      [.readRequest true, .readRequest false, .dispatch, .call 0 .takeError, .call 1 .takeError] ++
      calls 2 .requestState ++ [.serve true, .dispatch, .call 2 .takeReply])
    (by decide +kernel)

theorem error_fails_other_call :
    Reachable machine anyStep overlapping ∧
      (overlapping.calls[0]?).map (·.stage) =
        some (.done (.answered ⟨.error, some ⟨1, .launchApp⟩⟩)) ∧
      (overlapping.calls[2]?).map (·.stage) =
        some (.done (.answered ⟨.reply .state, some ⟨0, .requestState⟩⟩)) :=
  ⟨final_state_reachable _ _ _ _, by decide +kernel, by decide +kernel⟩

end ADesk.Viewer.Replies
