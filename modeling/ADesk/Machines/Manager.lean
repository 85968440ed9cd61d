/- ADesk/Machines/Manager
   digest: The registry of known machines, the calls of the lifecycle manager cut at each backend
   call, and the machine of their interleavings. -/

import Mathlib.Data.List.Basic
import ADesk.Foundation.Execution
import ADesk.Machines.Backend

set_option autoImplicit false

namespace ADesk.Machines.Manager

open ADesk.Foundation.Execution (Machine)
open ADesk.Machines.Backend

/-! ## The registry -/

/-- The ids and the last known statuses by name. -/
structure MachineRegistry where
  ids : Std.TreeMap MachineName MachineId := {}
  statuses : Std.TreeMap MachineName MachineStatus := {}

namespace MachineRegistry

def contains (registry : MachineRegistry) (name : MachineName) : Bool :=
  registry.statuses.contains name

def id (registry : MachineRegistry) (name : MachineName) : Option MachineId :=
  registry.ids[name]?

def get (registry : MachineRegistry) (name : MachineName) : Option MachineStatus :=
  registry.statuses[name]?

/-- Registers a status and returns the one it replaces. -/
def insert (registry : MachineRegistry) (status : MachineStatus) :
    MachineRegistry × Option MachineStatus :=
  ({ ids := registry.ids.insert status.name status.id
     statuses := registry.statuses.insert status.name status },
    registry.statuses[status.name]?)

/-- Refreshes a registered machine; an unknown name is ignored. -/
def update (registry : MachineRegistry) (status : MachineStatus) :
    MachineRegistry × Option MachineStatus :=
  if !registry.ids.contains status.name then (registry, none)
  else
    ({ ids := registry.ids.insert status.name status.id
       statuses := registry.statuses.insert status.name status },
      registry.statuses[status.name]?)

def remove (registry : MachineRegistry) (name : MachineName) :
    MachineRegistry × Option MachineStatus :=
  ({ ids := registry.ids.erase name, statuses := registry.statuses.erase name },
    registry.statuses[name]?)

/-- The registry that holds the listed machines and nothing else. -/
def rebuilt (statuses : List MachineStatus) : MachineRegistry :=
  statuses.foldl (fun registry status => (registry.insert status).1) {}

end MachineRegistry

/-- The backend id of a name. -/
def resolve (registry : MachineRegistry) (name : MachineName) : Except MachineError MachineId :=
  match registry.id name with
  | some id => .ok id
  | none => .error (.notFound name.value)

/-! ## One call -/

inductive Request
  | create (spec : MachineSpec)
  | start (name : MachineName)
  | stop (name : MachineName) (timeoutMs : ℕ)
  | remove (name : MachineName) (force : Bool)
  | status (name : MachineName)
  | list
  deriving DecidableEq, Repr

inductive Answer
  | status (status : MachineStatus)
  | statuses (statuses : List MachineStatus)
  deriving DecidableEq, Repr

/-- Where a call stands: before one of its backend calls, or before its write to the registry.
`start`, `stop` and `status` end alike, by reading the status and refreshing the registry. -/
inductive Stage
  | creating (spec : MachineSpec)
  | reading (spec : MachineSpec) (id : MachineId)
  | inserting (status : MachineStatus)
  | starting (id : MachineId)
  | stopping (id : MachineId) (timeoutMs : ℕ)
  | refreshing (id : MachineId)
  | updating (status : MachineStatus)
  | observing (name : MachineName) (id : MachineId) (force : Bool)
  | removing (name : MachineName) (id : MachineId) (force : Bool) (last : MachineStatus)
  | forgetting (name : MachineName) (last : MachineStatus)
  | listing
  | rebuilding (statuses : List MachineStatus)
  | answered (result : Except MachineError Answer)

/-- The call up to its first backend call. -/
def begin (registry : MachineRegistry) : Request → Stage
  | .create spec =>
    if registry.contains spec.name then .answered (.error (.duplicate spec.name.value))
    else .creating spec
  | .start name =>
    match resolve registry name with
    | .ok id => .starting id
    | .error error => .answered (.error error)
  | .stop name timeoutMs =>
    match resolve registry name with
    | .ok id => .stopping id timeoutMs
    | .error error => .answered (.error error)
  | .remove name force =>
    match resolve registry name with
    | .ok id => .observing name id force
    | .error error => .answered (.error error)
  | .status name =>
    match resolve registry name with
    | .ok id => .refreshing id
    | .error error => .answered (.error error)
  | .list => .listing

/-- How `create` reports a failed backend call. -/
def createError (spec : MachineSpec) : MachineError → MachineError
  | .duplicate _ => .duplicate spec.name.value
  | other => other

/-- The backend, the registry over it, and two records of the past: the machines that were
created or listed through this manager, and the ones it removed. -/
structure Estate where
  backend : MockInner := {}
  registry : MachineRegistry := {}
  adopted : List MachineId := []
  forgotten : List MachineId := []

/-- The next step of a call, whose backend call is answered by the backend itself. -/
def Stage.next (estate : Estate) (now : ℕ) : Stage → Option (Estate × Stage)
  | .creating spec =>
    match estate.backend.create spec now with
    | (backend, .ok id) =>
      some ({ estate with backend := backend, adopted := id :: estate.adopted },
        .reading spec id)
    | (backend, .error error) =>
      some ({ estate with backend := backend }, .answered (.error (createError spec error)))
  | .reading _ id =>
    match estate.backend.status id with
    | (backend, .ok status) => some ({ estate with backend := backend }, .inserting status)
    | (backend, .error error) => some ({ estate with backend := backend }, .answered (.error error))
  | .inserting status =>
    some ({ estate with registry := (estate.registry.insert status).1 },
      .answered (.ok (.status status)))
  | .starting id =>
    match estate.backend.start id with
    | (backend, .ok ()) => some ({ estate with backend := backend }, .refreshing id)
    | (backend, .error error) => some ({ estate with backend := backend }, .answered (.error error))
  | .stopping id timeoutMs =>
    match estate.backend.stop id timeoutMs with
    | (backend, .ok ()) => some ({ estate with backend := backend }, .refreshing id)
    | (backend, .error error) => some ({ estate with backend := backend }, .answered (.error error))
  | .refreshing id =>
    match estate.backend.status id with
    | (backend, .ok status) => some ({ estate with backend := backend }, .updating status)
    | (backend, .error error) => some ({ estate with backend := backend }, .answered (.error error))
  | .updating status =>
    some ({ estate with registry := (estate.registry.update status).1 },
      .answered (.ok (.status status)))
  | .observing name id force =>
    match estate.backend.status id with
    | (backend, .ok last) => some ({ estate with backend := backend }, .removing name id force last)
    | (backend, .error error) => some ({ estate with backend := backend }, .answered (.error error))
  | .removing name id force last =>
    match estate.backend.remove id force with
    | (backend, .ok ()) =>
      some ({ estate with backend := backend, forgotten := id :: estate.forgotten },
        .forgetting name last)
    | (backend, .error error) => some ({ estate with backend := backend }, .answered (.error error))
  | .forgetting name last =>
    some ({ estate with registry := (estate.registry.remove name).1 },
      .answered (.ok (.status last)))
  | .listing =>
    match estate.backend.list with
    | (backend, .ok statuses) =>
      some ({ estate with
          backend := backend
          adopted := statuses.map MachineStatus.id ++ estate.adopted }, .rebuilding statuses)
    | (backend, .error error) => some ({ estate with backend := backend }, .answered (.error error))
  | .rebuilding statuses =>
    some ({ estate with registry := .rebuilt statuses }, .answered (.ok (.statuses statuses)))
  | .answered _ => none

/-- A call whose backend call fails; a call before a registry write has none to fail. -/
def Stage.refused (error : MachineError) : Stage → Option Stage
  | .creating spec => some (.answered (.error (createError spec error)))
  | .reading _ _ => some (.answered (.error error))
  | .starting _ => some (.answered (.error error))
  | .stopping _ _ => some (.answered (.error error))
  | .refreshing _ => some (.answered (.error error))
  | .observing _ _ _ => some (.answered (.error error))
  | .removing _ _ _ _ => some (.answered (.error error))
  | .listing => some (.answered (.error error))
  | .inserting _ => none
  | .updating _ => none
  | .forgetting _ _ => none
  | .rebuilding _ => none
  | .answered _ => none

/-! ## All calls -/

/-- The estate and every call so far; a call that returned stays as its answer. -/
structure State extends Estate where
  calls : List Stage := []

/-- What happens next: a call begins, the call with a ticket takes its next step at a reading of
the backend's clock, its backend call fails, or another holder of the backend makes a call. -/
inductive Action
  | begin (request : Request)
  | advance (ticket now : ℕ)
  | refuse (ticket : ℕ) (error : MachineError)
  | elsewhere (errand : MockInner.Errand) (now : ℕ)

def State.step (state : State) : Action → Option State
  | .begin request =>
    some { state with calls := state.calls ++ [Manager.begin state.registry request] }
  | .advance ticket now =>
    (state.calls[ticket]?.bind (Stage.next state.toEstate now)).map fun (estate, stage) =>
      { toEstate := estate, calls := state.calls.set ticket stage }
  | .refuse ticket error =>
    (state.calls[ticket]?.bind (Stage.refused error)).map fun stage =>
      { state with calls := state.calls.set ticket stage }
  | .elsewhere errand now =>
    some { state with backend := state.backend.run now errand }

/-- The manager over a fresh backend. -/
def manager : Machine State Action where
  init := {}
  step := State.step

/-- Whether a call has returned. -/
def Stage.isAnswered : Stage → Bool
  | .answered _ => true
  | _ => false

/-- No call is in flight. -/
def State.Quiet (state : State) : Prop := state.calls.all Stage.isAnswered = true

instance (state : State) : Decidable state.Quiet := inferInstanceAs (Decidable (_ = true))

end ADesk.Machines.Manager
