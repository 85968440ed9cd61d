/- ADesk/Client/Transport
   digest: A connection of the client: requests, reader, writer and closers, each critical section a
   step of its own. -/

import ADesk.Client.Fanout
import Mathlib.Data.List.AList

set_option autoImplicit false

namespace ADesk.Client.Transport

open ADesk.Client.Fanout (Hub)
open ADesk.Foundation.Execution

universe u v

variable {ε : Type u} {Value : Type v}

def outboundQueueCapacity : ℕ := 64

/-! ## Errors -/

structure ServerError where
  code : String
  message : String
  deriving DecidableEq

inductive ClientError
  | io (kind message : String)
  | protocol (message : String)
  | closed
  | server (code message : String)
  | invalidPayload (message : String)
  | lagged (skipped : ℕ)
  deriving DecidableEq

def ClientError.display : ClientError → String
  | .io _ message => s!"i/o error: {message}"
  | .protocol message => s!"protocol violation: {message}"
  | .closed => "connection closed"
  | .server code message => s!"server error {code}: {message}"
  | .invalidPayload message => s!"invalid payload: {message}"
  | .lagged skipped => s!"event stream lagged: {skipped} events dropped"

/-- Why the connection ended. -/
inductive CloseReason
  | protocol (message : String)
  | closed
  | io (kind message : String)
  deriving DecidableEq

def CloseReason.toError : CloseReason → ClientError
  | .protocol message => .protocol message
  | .closed => .closed
  | .io kind message => .io kind message

def CloseReason.ofError : ClientError → CloseReason
  | .protocol message => .protocol message
  | .closed => .closed
  | .io kind message => .io kind message
  | other => .protocol other.display

/-! ## Requests -/

/-- What encoding a call comes to; a refused frame has used up its id. -/
inductive Encoding
  | encodes
  | badParams (message : String)
  | badFrame (message : String)
  deriving DecidableEq

/-- The oneshot a caller waits on; `sent` keeps the id the response carried. -/
inductive Slot (Value : Type v)
  | unset
  | sent (id : ℕ) (result : Except ServerError Value)
  | dropped

inductive Completion (Value : Type v)
  | answered (id : ℕ) (result : Except ServerError Value)
  | failed (error : ClientError)

/-- Where a call of `request` is, each stage at its next critical section. -/
inductive Stage (Value : Type v)
  | called
  | checked
  | encoded (id : ℕ)
  | registered (id : ℕ)
  | refused (id : ℕ) (full : Bool)
  | queued (id : ℕ)
  | withdrawing (id : ℕ)
  | awaiting (id : ℕ)
  | failing
  | completed (completion : Completion Value)

structure Request (Value : Type v) where
  encoding : Encoding
  subscribes : Bool
  stage : Stage Value
  slot : Slot Value
  id : Option ℕ
  -- The channel of the stream the call returned.
  stream : Option ℕ
  -- History: how many events were fanned out when the response was handled.
  answeredAt : Option ℕ

def Request.called (encoding : Encoding) (subscribes : Bool) : Request Value :=
  ⟨encoding, subscribes, .called, .unset, none, none, none⟩

/-- The typed result of a completed call; `fits` decodes a response value. -/
def Completion.toResult {R : Type} (method : String) (fits : Value → Except String R) :
    Completion Value → Except ClientError R
  | .answered _ (.ok value) =>
    match fits value with
    | .ok result => .ok result
    | .error error =>
      .error (.invalidPayload s!"result of `{method}` does not match the expected type: {error}")
  | .answered _ (.error error) => .error (.server error.code error.message)
  | .failed error => .error error

/-! ## The connection -/

/-- Where a run of `close_with` is; `dropping` holds the senders it took from the pending map. -/
inductive Closing
  | settingReason (reason : CloseReason)
  | settingClosed
  | draining
  | dropping (held : List ℕ)
  | endingEvents
  | finished
  deriving DecidableEq

inductive Frame (Value : Type v) (ε : Type u)
  | response (id : ℕ) (result : Except ServerError Value)
  | event (payload : ε)
  | malformed (error : ClientError)

inductive Reader (Value : Type v) (ε : Type u)
  | selecting
  | holding (frame : Frame Value ε)
  | fanning
  | closing

inductive Writer
  | receiving
  | writing (id : ℕ)
  | closing (closer : ℕ)
  | ended
  deriving DecidableEq

structure Connection (Value : Type v) (ε : Type u) where
  requests : List (Request Value)
  nextId : ℕ
  -- The sender of each request in flight, by request id.
  pending : AList (fun _ : ℕ => ℕ)
  -- The outbound sender is there until `close` takes it.
  outbound : Bool
  queue : List ℕ
  closed : Bool
  closeReason : Option CloseReason
  shutdown : Bool
  reader : Reader Value ε
  writer : Writer
  closers : List Closing
  -- The closers that are calls of `close`.
  closeCalls : List ℕ
  hub : Hub ε
  -- History: the responses handled so far.
  responses : List (ℕ × Except ServerError Value)

def Connection.connect : Connection Value ε :=
  ⟨[], 1, ∅, true, [], false, none, true, .selecting, .receiving, [], [], Hub.new, []⟩

def Connection.closeError (s : Connection Value ε) : ClientError :=
  match s.closeReason with
  | some reason => reason.toError
  | none => .closed

def Connection.put (s : Connection Value ε) (index : ℕ) (request : Request Value) :
    Connection Value ε :=
  { s with requests := s.requests.set index request }

/-- The next step of a call of `request`. -/
def Connection.advance (s : Connection Value ε) (index : ℕ) (request : Request Value) :
    Option (Connection Value ε) :=
  match request.stage with
  | .called => some (s.put index { request with stage := if s.closed then .failing else .checked })
  | .checked =>
    match request.encoding with
    | .badParams message =>
      some (s.put index { request with stage := .completed (.failed (.protocol message)) })
    | .badFrame message =>
      some { s.put index { request with stage := .completed (.failed (.protocol message)) } with
        nextId := s.nextId + 1 }
    | .encodes =>
      some { s.put index { request with stage := .encoded s.nextId, id := some s.nextId } with
        nextId := s.nextId + 1 }
  | .encoded id =>
    -- Registered before it is queued: the answer may come as soon as the line is on the wire.
    some { s.put index { request with stage := .registered id } with
      pending := s.pending.insert id index }
  | .registered id =>
    if s.outbound && decide (s.writer ≠ .ended) then
      if s.queue.length < outboundQueueCapacity then
        some { s.put index { request with stage := .queued id } with queue := s.queue ++ [id] }
      else some (s.put index { request with stage := .refused id true })
    else some (s.put index { request with stage := .refused id false })
  | .refused id full =>
    some { s.put index { request with
        stage := if full then .completed (.failed .closed) else .failing } with
      pending := s.pending.erase id }
  | .queued id =>
    some (s.put index { request with stage := if s.closed then .withdrawing id else .awaiting id })
  | .withdrawing id =>
    if id ∈ s.pending then
      some { s.put index { request with stage := .failing } with pending := s.pending.erase id }
    else some (s.put index { request with stage := .awaiting id })
  | .awaiting _ =>
    match request.slot with
    | .unset => none
    | .sent id result =>
      some (s.put index { request with stage := .completed (.answered id result) })
    | .dropped => some (s.put index { request with stage := .failing })
  | .failing => some (s.put index { request with stage := .completed (.failed s.closeError) })
  | .completed _ => none

def dropSender (request : Request Value) : Request Value := { request with slot := .dropped }

/-- The next step of a run of `close_with`. -/
def Connection.advanceCloser (s : Connection Value ε) (closer : ℕ) :
    Closing → Option (Connection Value ε)
  | .settingReason reason =>
    some { s with
      closeReason := s.closeReason.or (some reason)
      closers := s.closers.set closer .settingClosed }
  | .settingClosed => some { s with closed := true, closers := s.closers.set closer .draining }
  | .draining =>
    some { s with
      pending := ∅
      closers := s.closers.set closer (.dropping (s.pending.entries.map Sigma.snd)) }
  | .dropping (index :: held) =>
    some { s with
      requests := s.requests.modify index dropSender
      closers := s.closers.set closer (.dropping held) }
  | .dropping [] => some { s with closers := s.closers.set closer .endingEvents }
  | .endingEvents =>
    match s.hub.close with
    | some hub => some { s with hub := hub, closers := s.closers.set closer .finished }
    | none => none
  | .finished => none

/-- A response resolves the entry of its id; one without an entry is ignored. -/
def Connection.resolve (s : Connection Value ε) (id : ℕ) (result : Except ServerError Value) :
    Connection Value ε :=
  match s.pending.lookup id with
  | some index =>
    { s with
      pending := s.pending.erase id
      requests := s.requests.modify index (fun request =>
        { request with slot := .sent id result, answeredAt := some s.hub.sent.length })
      responses := s.responses ++ [(id, result)] }
  | none => { s with responses := s.responses ++ [(id, result)] }

/-- The reader handles the frame it read. -/
def Connection.handle (s : Connection Value ε) :
    Frame Value ε → Option (Connection Value ε)
  | .response id result => some { s.resolve id result with reader := .selecting }
  | .event payload => (s.hub.send payload).map (fun hub => { s with hub := hub, reader := .fanning })
  | .malformed error =>
    some { s with
      closers := s.closers ++ [.settingReason (.ofError error)]
      reader := .closing }

/-- The stream of an answered `subscribe_events`; `fits` tells whether the result decodes. -/
def Connection.register (fits : Value → Bool) (s : Connection Value ε) (index : ℕ)
    (request : Request Value) : Option (Connection Value ε) :=
  match request.subscribes, request.stream, request.stage with
  | true, none, .completed (.answered _ (.ok value)) =>
    if fits value then
      s.hub.subscribe.map (fun hub =>
        { s.put index { request with stream := some s.hub.channels.length } with hub := hub })
    else none
  | _, _, _ => none

inductive Label (Value : Type v) (ε : Type u)
  | call (encoding : Encoding) (subscribes : Bool)
  | advance (index : ℕ)
  | register (index : ℕ)
  | fireAndForget
  | close
  | advanceCloser (closer : ℕ)
  | dropShutdown
  | readLine (frame : Frame Value ε)
  | readEnd (error : ClientError)
  | handle
  | fanned
  | seeShutdown
  | recvLine
  | writeOk
  | writeFails (kind message : String)
  | endWriter
  | fanout (label : Fanout.Label ε)

/-- The steps of a send under way and those of the streams. -/
def passes : Fanout.Label ε → Bool
  | .deliver | .count | .finish | .pollSkipped _ | .pollQueue _ | .dropStream _ => true
  | .subscribe | .send _ | .close => false

def step (capacity : ℕ) (fits : Value → Bool) (s : Connection Value ε) :
    Label Value ε → Option (Connection Value ε)
  | .call encoding subscribes =>
    some { s with requests := s.requests ++ [.called encoding subscribes] }
  | .advance index =>
    match s.requests[index]? with
    | some request => s.advance index request
    | none => none
  | .register index =>
    match s.requests[index]? with
    | some request => s.register fits index request
    | none => none
  | .fireAndForget =>
    -- Its look at `closed` may lie any number of steps back.
    some { s with
      nextId := s.nextId + 1
      queue := if s.outbound && decide (s.writer ≠ .ended) &&
          decide (s.queue.length < outboundQueueCapacity) then s.queue ++ [s.nextId]
        else s.queue }
  | .close =>
    some { s with
      outbound := false
      closers := s.closers ++ [.settingReason .closed]
      closeCalls := s.closeCalls ++ [s.closers.length] }
  | .advanceCloser closer =>
    match s.closers[closer]? with
    | some closing => s.advanceCloser closer closing
    | none => none
  | .dropShutdown =>
    if s.closeCalls.any (fun closer => s.closers[closer]? == some .finished) then
      some { s with shutdown := false }
    else none
  | .readLine frame =>
    match s.reader with
    | .selecting => if s.shutdown then some { s with reader := .holding frame } else none
    | _ => none
  | .readEnd error =>
    match s.reader with
    | .selecting =>
      if s.shutdown then
        some { s with closers := s.closers ++ [.settingReason (.ofError error)], reader := .closing }
      else none
    | _ => none
  | .handle =>
    match s.reader with
    | .holding frame => s.handle frame
    | _ => none
  | .fanned =>
    match s.reader with
    | .fanning => if s.hub.sending.isNone then some { s with reader := .selecting } else none
    | _ => none
  | .seeShutdown =>
    match s.reader with
    | .selecting =>
      if s.shutdown then none
      else some { s with closers := s.closers ++ [.settingReason .closed], reader := .closing }
    | _ => none
  | .recvLine =>
    match s.writer, s.queue with
    | .receiving, id :: rest => some { s with writer := .writing id, queue := rest }
    | .receiving, [] => if s.outbound then none else some { s with writer := .ended }
    | _, _ => none
  | .writeOk =>
    match s.writer with
    | .writing _ => some { s with writer := .receiving }
    | _ => none
  | .writeFails kind message =>
    match s.writer with
    | .writing _ =>
      some { s with
        closers := s.closers ++ [.settingReason (.io kind message)]
        writer := .closing s.closers.length }
    | _ => none
  | .endWriter =>
    match s.writer with
    | .closing closer =>
      if s.closers[closer]? = some .finished then some { s with writer := .ended } else none
    | _ => none
  | .fanout label =>
    if passes label then
      (Fanout.step capacity s.hub label).map (fun hub => { s with hub := hub })
    else none

def machine (ε : Type u) (capacity : ℕ) (fits : Value → Bool) :
    Machine (Connection Value ε) (Label Value ε) :=
  ⟨Connection.connect, step capacity fits⟩

end ADesk.Client.Transport
