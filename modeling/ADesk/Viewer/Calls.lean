/- ADesk/Viewer/Calls
   digest: A viewer client's calls, the session that answers them and the two directions of their
   connection, one await a step. -/

import ADesk.Foundation.Broadcast
import ADesk.Foundation.Execution
import Mathlib.Logic.Function.Basic

set_option autoImplicit false

namespace ADesk.Viewer.Calls

open ADesk.Foundation.Broadcast
open ADesk.Foundation.Execution (Machine)

/-! ## Messages -/

/-- The reply FIFOs of the client. -/
inductive Kind
  | state | recording | apps | launch
  deriving DecidableEq

/-- The messages that a call of the client sends. -/
inductive Request
  | requestFrame | requestState | startRecording | stopRecording | requestRecording | listApps
  | launchApp
  deriving DecidableEq

/-- The FIFO that resolves the call. A requested frame comes through the frame channel. -/
def Request.fifo : Request → Option Kind
  | .requestFrame => none
  | .requestState => some .state
  | .startRecording | .stopRecording | .requestRecording => some .recording
  | .listApps => some .apps
  | .launchApp => some .launch

/-- `ReadRequest::of`: the requests that the session serves off its read loop. -/
def Request.isRead : Request → Bool
  | .requestFrame | .requestState | .requestRecording | .listApps => true
  | .startRecording | .stopRecording | .launchApp => false

/-- A request on its way, with the call that sent it. The call is a history variable: no message
carries it. -/
structure Ticket where
  call : ℕ
  request : Request
  deriving DecidableEq

/-- A client message: a request, or an input or control message that no call waits for. -/
inductive Message
  | request (ticket : Ticket)
  | input
  deriving DecidableEq

def Message.ticket : Message → Option Ticket
  | .request ticket => some ticket
  | .input => none

inductive Content
  | frame
  | reply (kind : Kind)
  | error
  | acknowledged
  deriving DecidableEq

/-- A server message, with the request that it answers (a history variable); a streamed frame and
the answer to an input answer none. -/
structure Answer where
  content : Content
  origin : Option Ticket
  deriving DecidableEq

/-- The reply to a request. -/
def Request.reply (request : Request) : Content :=
  match request.fifo with
  | some kind => .reply kind
  | none => .frame

/-- What the session answers to a request, by whether the backend succeeded. -/
def Ticket.answer (ticket : Ticket) (succeeds : Bool) : Answer :=
  ⟨if succeeds then ticket.request.reply else .error, some ticket⟩

/-! ## Calls -/

inductive Outcome
  | answered (answer : Answer)
  | io
  | closed
  | dropped
  deriving DecidableEq

/-- Where a call stands: it checked that the connection is open (and subscribed to the frames when
it asks for one), subscribed to the errors, registered its waiter, wrote its message, or is over. -/
inductive Stage
  | started
  | subscribed
  | registered
  | sent
  | done (outcome : Outcome)
  deriving DecidableEq

/-- A call with its receivers. The position of a call in the client's list stands for the token of
its waiter. -/
structure Call where
  request : Request
  stage : Stage
  errors : Cursor
  frames : Cursor
  reply : Option Answer
  deriving DecidableEq

def errorChannelCapacity : ℕ := 16

def frameChannelCapacity : ℕ := 32

/-- The client, the read requests that the session has queued (the first of them is in flight),
and the messages under way in both directions. -/
structure State where
  calls : List Call
  fifo : Kind → List ℕ
  errors : Channel Answer
  frames : Channel Answer
  toServer : List Message
  reads : List Ticket
  toClient : List Answer
  closed : Bool

def State.new : State :=
  ⟨[], fun _ => [], Channel.new errorChannelCapacity, Channel.new frameChannelCapacity, [], [], [],
    false⟩

def State.put (s : State) (index : ℕ) (call : Call) : State :=
  { s with calls := s.calls.set index call }

/-- `ReplyFifo::remove`. -/
def State.remove (s : State) (index : ℕ) (request : Request) : State :=
  match request.fifo with
  | some kind =>
    { s with fifo := Function.update s.fifo kind ((s.fifo kind).filter (· ≠ index)) }
  | none => s

/-- The moves of a call: up to its message, what its `select!` can take, its end with the
connection, and the end of its future before that. -/
inductive Act
  | subscribe | register | write | writeFails | takeReply | takeError | takeFrame | finish | abandon
  deriving DecidableEq

/-- A call writes its message once it has subscribed, and registered when a FIFO resolves it. -/
def Call.writes (call : Call) : Bool :=
  call.stage = .registered || (call.stage = .subscribed && call.request.fifo.isNone)

def Call.over (call : Call) : Bool :=
  match call.stage with
  | .done _ => true
  | _ => false

def perform (s : State) (index : ℕ) (call : Call) : Act → Option State
  | .subscribe =>
    if call.stage = .started ∧ s.closed = false then
      some (s.put index { call with stage := .subscribed, errors := s.errors.subscribe })
    else none
  | .register =>
    match call.request.fifo with
    | some kind =>
      if call.stage = .subscribed then
        some { s.put index { call with stage := .registered } with
          fifo := Function.update s.fifo kind (s.fifo kind ++ [index]) }
      else none
    | none => none
  | .write =>
    if call.writes then
      some { s.put index { call with stage := .sent } with
        toServer := s.toServer ++ [.request ⟨index, call.request⟩] }
    else none
  | .writeFails =>
    if call.writes then
      some ((s.put index { call with stage := .done .io }).remove index call.request)
    else none
  | .takeReply =>
    match call.reply with
    | some answer =>
      if call.stage = .sent then some (s.put index { call with stage := .done (.answered answer) })
      else none
    | none => none
  | .takeError =>
    if call.stage = .sent then
      match s.errors.recv call.errors with
      | (.lagged _, cursor) => some (s.put index { call with errors := cursor })
      | (.value answer, cursor) =>
        some ((s.put index { call with stage := .done (.answered answer), errors := cursor }).remove
          index call.request)
      | (.empty, _) => none
    else none
  | .takeFrame =>
    if call.stage = .sent ∧ call.request = .requestFrame then
      match s.frames.recv call.frames with
      | (.lagged _, cursor) => some (s.put index { call with frames := cursor })
      | (.value answer, cursor) =>
        some (s.put index { call with stage := .done (.answered answer), frames := cursor })
      | (.empty, _) => none
    else none
  | .finish =>
    if s.closed = true ∧ call.over = false then
      some ((s.put index { call with stage := .done .closed }).remove index call.request)
    else none
  | .abandon =>
    if call.over then none else some (s.put index { call with stage := .done .dropped })

/-! ## The session and the dispatcher -/

/-- What the backend makes of an input: an action to acknowledge, nothing to acknowledge, or an
error. -/
inductive Applied
  | recorded | unrecorded | refused
  deriving DecidableEq

def Applied.answers : Applied → List Answer
  | .recorded => [⟨.acknowledged, none⟩]
  | .unrecorded => []
  | .refused => [⟨.error, none⟩]

/-- `ReplyFifo::resolve`: the oldest waiter gets the reply. -/
def State.resolve (s : State) (kind : Kind) (answer : Answer) : State :=
  match s.fifo kind with
  | [] => s
  | index :: rest =>
    { s with
      fifo := Function.update s.fifo kind rest
      calls := s.calls.modify index fun call => { call with reply := some answer } }

/-- What the dispatcher does with a server message. -/
def State.deliver (s : State) (answer : Answer) : State :=
  match answer.content with
  | .frame => { s with frames := s.frames.send answer }
  | .reply kind => s.resolve kind answer
  | .error => { s with errors := s.errors.send answer }
  | .acknowledged => s

inductive Label
  | start (request : Request)
  | call (index : ℕ) (act : Act)
  | input
  | readInput (applied : Applied)
  | readRequest (succeeds : Bool)
  | serve (succeeds : Bool)
  | push (succeeds : Bool)
  | dispatch
  | disconnect
  deriving DecidableEq

def step (s : State) : Label → Option State
  | .start request =>
    if s.closed then none
    else some { s with calls := s.calls ++ [⟨request, .started, ⟨0⟩, s.frames.subscribe, none⟩] }
  | .call index act => (s.calls[index]?).bind fun call => perform s index call act
  | .input => some { s with toServer := s.toServer ++ [.input] }
  | .readInput applied =>
    match s.toServer with
    | .input :: rest =>
      some { s with toServer := rest, toClient := s.toClient ++ applied.answers }
    | _ => none
  | .readRequest succeeds =>
    match s.toServer with
    | .request ticket :: rest =>
      if ticket.request.isRead then
        some { s with toServer := rest, reads := s.reads ++ [ticket] }
      else some { s with toServer := rest, toClient := s.toClient ++ [ticket.answer succeeds] }
    | _ => none
  | .serve succeeds =>
    match s.reads with
    | ticket :: rest =>
      some { s with reads := rest, toClient := s.toClient ++ [ticket.answer succeeds] }
    | [] => none
  | .push succeeds =>
    some { s with toClient := s.toClient ++ [⟨if succeeds then .frame else .error, none⟩] }
  | .dispatch =>
    if s.closed then none
    else
      match s.toClient with
      | answer :: rest => some ({ s with toClient := rest }.deliver answer)
      | [] => none
  | .disconnect => some { s with closed := true, fifo := fun _ => [] }

/-- One client on its connection. -/
def machine : Machine State Label := ⟨State.new, step⟩

end ADesk.Viewer.Calls
