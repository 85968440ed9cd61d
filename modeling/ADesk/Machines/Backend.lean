/- ADesk/Machines/Backend
   digest: The machine statuses and errors, the in-memory container backend, what each of its
   calls leaves behind, and the agreement of its two tables. -/

import Mathlib.Data.List.Basic
import Mathlib.Data.Nat.Digits.Defs

set_option autoImplicit false

namespace ADesk.Machines.Backend

/-- The id the container backend assigns; opaque to everyone else. -/
structure MachineId where
  value : String
  deriving DecidableEq, Repr

/-- The agent-facing name, the manager's unique key. -/
structure MachineName where
  value : String
  deriving DecidableEq, Repr

instance : Ord MachineId where
  compare left right := compare left.value right.value

instance : Std.TransOrd MachineId :=
  inferInstanceAs (Std.TransCmp (compareOn MachineId.value))

instance : Std.LawfulEqOrd MachineId where
  eq_of_compare {left right} same := by
    have values : left.value = right.value := Std.LawfulEqOrd.eq_of_compare same
    cases left
    cases right
    exact congrArg MachineId.mk values

instance : Ord MachineName where
  compare left right := compare left.value right.value

instance : Std.TransOrd MachineName :=
  inferInstanceAs (Std.TransCmp (compareOn MachineName.value))

instance : Std.LawfulEqOrd MachineName where
  eq_of_compare {left right} same := by
    have values : left.value = right.value := Std.LawfulEqOrd.eq_of_compare same
    cases left
    cases right
    exact congrArg MachineName.mk values

/-- The lifecycle state of one machine. -/
inductive MachineState
  | created
  | running
  | stopped
  | exited (code : ℤ)
  | failed (message : String)
  deriving DecidableEq, Repr

namespace MachineState

def isRunning : MachineState → Bool
  | running => true
  | _ => false

/-- The stable name used on the wire and in logs. -/
def asStr : MachineState → String
  | created => "created"
  | running => "running"
  | stopped => "stopped"
  | exited _ => "exited"
  | failed _ => "failed"

end MachineState

/-- How the viewer outside the machine reaches ADesk inside it. -/
inductive ViewerExposure
  | unixSocket (hostPath containerPath : String)
  | tcpPort (hostPort containerPort : UInt16)
  | none
  deriving DecidableEq, Repr

/-- The part of a machine specification that the manager and this backend read. -/
structure MachineSpec where
  name : MachineName
  image : String
  viewer : ViewerExposure
  deriving DecidableEq, Repr

/-- The backend's view of one machine. -/
structure MachineStatus where
  id : MachineId
  name : MachineName
  image : String
  state : MachineState
  pid : Option ℕ
  createdAtMs : ℕ
  viewer : ViewerExposure
  deriving DecidableEq, Repr

inductive MachineError
  | runtime (message : String)
  | backend (program : String) (status : ℤ) (stderr : String)
  | notFound (name : String)
  | duplicate (name : String)
  | invalidSpec (message : String)
  | invalidState (name state action : String)
  | io (message : String)
  | spawn (message : String)
  deriving DecidableEq, Repr

/-- One recorded backend call. -/
inductive RuntimeCall
  | create (name : MachineName)
  | start (id : MachineId)
  | stop (id : MachineId) (timeoutMs : ℕ)
  | remove (id : MachineId) (force : Bool)
  | status (id : MachineId)
  | list
  deriving DecidableEq, Repr

/-- One machine the backend knows about. -/
structure MockMachine where
  spec : MachineSpec
  state : MachineState
  createdAtMs : ℕ
  pid : ℕ
  deriving DecidableEq, Repr

def MockMachine.status (machine : MockMachine) (id : MachineId) : MachineStatus where
  id := id
  name := machine.spec.name
  image := machine.spec.image
  state := machine.state
  pid := if machine.state.isRunning then some machine.pid else none
  createdAtMs := machine.createdAtMs
  viewer := machine.spec.viewer

@[simp] theorem MockMachine.status_id (machine : MockMachine) (id : MachineId) :
    (machine.status id).id = id := rfl

@[simp] theorem MockMachine.status_name (machine : MockMachine) (id : MachineId) :
    (machine.status id).name = machine.spec.name := rfl

/-- The mutable interior of the in-memory backend. -/
structure MockInner where
  machines : Std.TreeMap MachineId MockMachine := {}
  names : Std.TreeMap MachineName MachineId := {}
  nextSeq : ℕ := 0
  calls : List RuntimeCall := []

/-- The id with a sequence number. -/
def mintedId (seq : ℕ) : MachineId := ⟨"machine-" ++ toString seq⟩

def notFound (id : MachineId) : MachineError := .notFound id.value

def invalidState (name : MachineName) (state : MachineState) (action : String) : MachineError :=
  .invalidState name.value state.asStr action

namespace MockInner

def record (inner : MockInner) (call : RuntimeCall) : MockInner :=
  { inner with calls := inner.calls ++ [call] }

@[simp] theorem record_machines (inner : MockInner) (call : RuntimeCall) :
    (inner.record call).machines = inner.machines := rfl

@[simp] theorem record_names (inner : MockInner) (call : RuntimeCall) :
    (inner.record call).names = inner.names := rfl

@[simp] theorem record_nextSeq (inner : MockInner) (call : RuntimeCall) :
    (inner.record call).nextSeq = inner.nextSeq := rfl

/-- `now` is the reading of the backend's clock. The sequence number and the pid are unsigned
32-bit numbers. -/
def create (inner : MockInner) (spec : MachineSpec) (now : ℕ) :
    MockInner × Except MachineError MachineId :=
  let inner := inner.record (.create spec.name)
  if inner.names.contains spec.name then
    (inner, .error (.duplicate spec.name.value))
  else
    let seq := (inner.nextSeq + 1) % 2 ^ 32
    let id := mintedId seq
    let machine : MockMachine :=
      { spec := spec, state := .created, createdAtMs := now, pid := (1000 + seq) % 2 ^ 32 }
    ({ inner with
        machines := inner.machines.insert id machine
        names := inner.names.insert spec.name id
        nextSeq := seq }, .ok id)

def start (inner : MockInner) (id : MachineId) : MockInner × Except MachineError Unit :=
  let inner := inner.record (.start id)
  match inner.machines[id]? with
  | none => (inner, .error (notFound id))
  | some machine =>
    if machine.state = .created ∨ machine.state = .stopped then
      ({ inner with machines := inner.machines.insert id { machine with state := .running } },
        .ok ())
    else
      (inner, .error (invalidState machine.spec.name machine.state "start"))

def stop (inner : MockInner) (id : MachineId) (timeoutMs : ℕ) :
    MockInner × Except MachineError Unit :=
  let inner := inner.record (.stop id timeoutMs)
  match inner.machines[id]? with
  | none => (inner, .error (notFound id))
  | some machine =>
    if machine.state = .running then
      ({ inner with machines := inner.machines.insert id { machine with state := .stopped } },
        .ok ())
    else
      (inner, .error (invalidState machine.spec.name machine.state "stop"))

def remove (inner : MockInner) (id : MachineId) (force : Bool) :
    MockInner × Except MachineError Unit :=
  let inner := inner.record (.remove id force)
  match inner.machines[id]? with
  | none => (inner, .error (notFound id))
  | some machine =>
    if machine.state.isRunning && !force then
      (inner, .error (invalidState machine.spec.name machine.state "remove"))
    else
      ({ inner with
          machines := inner.machines.erase id
          names := inner.names.erase machine.spec.name }, .ok ())

def status (inner : MockInner) (id : MachineId) :
    MockInner × Except MachineError MachineStatus :=
  let inner := inner.record (.status id)
  match inner.machines[id]? with
  | none => (inner, .error (notFound id))
  | some machine => (inner, .ok (machine.status id))

def list (inner : MockInner) : MockInner × Except MachineError (List MachineStatus) :=
  let inner := inner.record .list
  (inner, .ok (inner.machines.toList.map fun entry => entry.2.status entry.1))

/-! ## What a call leaves behind -/

/-- The name of the machine with an id. -/
def nameOf (inner : MockInner) (id : MachineId) : Option MachineName :=
  inner.machines[id]?.map fun machine => machine.spec.name

theorem nameOf_insert (inner : MockInner) (id other : MachineId) (machine : MockMachine) :
    { inner with machines := inner.machines.insert id machine }.nameOf other =
      if other = id then some machine.spec.name else inner.nameOf other := by
  simp only [nameOf, Std.TreeMap.getElem?_insert, Std.LawfulEqCmp.compare_eq_iff_eq,
    eq_comm (a := other)]
  split
  · rfl
  · rfl

/-- The call neither makes nor removes a machine. -/
structure Still (before after : MockInner) : Prop where
  seq : after.nextSeq = before.nextSeq
  names : ∀ name : MachineName, after.names[name]? = before.names[name]?
  nameOf : ∀ id, after.nameOf id = before.nameOf id

/-- The call makes one machine, under a name that was free. -/
structure Made (before after : MockInner) (name : MachineName) (id : MachineId) : Prop where
  seq : after.nextSeq = (before.nextSeq + 1) % 2 ^ 32
  minted : id = mintedId after.nextSeq
  free : before.names[name]? = none
  names : ∀ other : MachineName,
    after.names[other]? = if other = name then some id else before.names[other]?
  nameOf : ∀ other, after.nameOf other = if other = id then some name else before.nameOf other

/-- The call removes one machine. -/
structure Dropped (before after : MockInner) (name : MachineName) (id : MachineId) : Prop where
  seq : after.nextSeq = before.nextSeq
  held : before.nameOf id = some name
  names : ∀ other : MachineName,
    after.names[other]? = if other = name then none else before.names[other]?
  nameOf : ∀ other, after.nameOf other = if other = id then none else before.nameOf other

theorem Still.refl (inner : MockInner) : Still inner inner :=
  ⟨rfl, fun _ => rfl, fun _ => rfl⟩

theorem record_still (inner : MockInner) (call : RuntimeCall) :
    Still inner (inner.record call) :=
  ⟨rfl, fun _ => rfl, fun _ => rfl⟩

/-- A machine that only changes its state keeps its name. -/
theorem still_of_state {inner : MockInner} {id : MachineId} {machine : MockMachine}
    (call : RuntimeCall) (state : MachineState) (present : inner.machines[id]? = some machine) :
    Still inner { inner.record call with
      machines := inner.machines.insert id { machine with state := state } } where
  seq := rfl
  names _ := rfl
  nameOf other := by
    refine (nameOf_insert (inner.record call) id other _).trans ?_
    split
    · next same => rw [same, nameOf, present]; rfl
    · rfl

theorem create_ok {inner after : MockInner} {spec : MachineSpec} {now : ℕ} {id : MachineId}
    (made : inner.create spec now = (after, .ok id)) : Made inner after spec.name id := by
  by_cases taken : spec.name ∈ inner.names
  · simp [create, taken] at made
  · have free : inner.names.contains spec.name = false :=
      Bool.eq_false_iff.mpr fun inside => taken (Std.TreeMap.contains_iff_mem.mp inside)
    simp only [create, record_names, free, Bool.false_eq_true, if_false, Prod.mk.injEq,
      Except.ok.injEq] at made
    obtain ⟨rfl, rfl⟩ := made
    refine ⟨rfl, rfl, ?_, fun other => ?_, fun other => nameOf_insert _ _ _ _⟩
    · exact Std.TreeMap.getElem?_eq_none taken
    · simp only [Std.TreeMap.getElem?_insert, Std.LawfulEqCmp.compare_eq_iff_eq,
        eq_comm (a := other)]

theorem create_error {inner after : MockInner} {spec : MachineSpec} {now : ℕ}
    {error : MachineError} (failed : inner.create spec now = (after, .error error)) :
    Still inner after := by
  by_cases taken : spec.name ∈ inner.names
  · simp only [create, record_names, Std.TreeMap.contains_iff_mem, taken, if_true,
      Prod.mk.injEq] at failed
    exact failed.1 ▸ record_still inner _
  · simp [create, taken] at failed

theorem start_still (inner : MockInner) (id : MachineId) : Still inner (inner.start id).1 := by
  simp only [start]
  split
  · exact record_still inner _
  · next machine present =>
    split
    · exact still_of_state _ _ present
    · exact record_still inner _

theorem stop_still (inner : MockInner) (id : MachineId) (timeoutMs : ℕ) :
    Still inner (inner.stop id timeoutMs).1 := by
  simp only [stop]
  split
  · exact record_still inner _
  · next machine present =>
    split
    · exact still_of_state _ _ present
    · exact record_still inner _

theorem remove_ok {inner after : MockInner} {id : MachineId} {force : Bool}
    (removed : inner.remove id force = (after, .ok ())) :
    ∃ name, Dropped inner after name id := by
  simp only [remove, record] at removed
  split at removed
  · simp at removed
  · next machine present =>
    split at removed
    · simp at removed
    · simp only [Prod.mk.injEq, and_true] at removed
      subst removed
      refine ⟨machine.spec.name, rfl, ?_, fun other => ?_, fun other => ?_⟩
      · rw [nameOf, present]
        rfl
      · simp only [Std.TreeMap.getElem?_erase, Std.LawfulEqCmp.compare_eq_iff_eq,
          eq_comm (a := other)]
      · simp only [nameOf, Std.TreeMap.getElem?_erase, Std.LawfulEqCmp.compare_eq_iff_eq,
          eq_comm (a := other)]
        split
        · rfl
        · rfl

theorem remove_error {inner after : MockInner} {id : MachineId} {force : Bool}
    {error : MachineError} (failed : inner.remove id force = (after, .error error)) :
    Still inner after := by
  simp only [remove] at failed
  split at failed
  · simp only [Prod.mk.injEq] at failed
    exact failed.1 ▸ record_still inner _
  · split at failed
    · simp only [Prod.mk.injEq] at failed
      exact failed.1 ▸ record_still inner _
    · simp at failed

theorem status_still (inner : MockInner) (id : MachineId) : Still inner (inner.status id).1 := by
  simp only [status]
  split
  · exact record_still inner _
  · exact record_still inner _

theorem status_ok {inner after : MockInner} {id : MachineId} {status : MachineStatus}
    (read : inner.status id = (after, .ok status)) :
    status.id = id ∧ inner.nameOf id = some status.name := by
  simp only [MockInner.status, record] at read
  split at read
  · simp at read
  · next machine present =>
    simp only [Prod.mk.injEq, Except.ok.injEq] at read
    obtain ⟨-, rfl⟩ := read
    refine ⟨rfl, ?_⟩
    rw [nameOf, present]
    rfl

theorem status_error {inner after : MockInner} {id : MachineId} {error : MachineError}
    (failed : inner.status id = (after, .error error)) : inner.nameOf id = none := by
  simp only [MockInner.status] at failed
  split at failed
  · next absent =>
    rw [record_machines] at absent
    rw [nameOf, absent]
    rfl
  · simp at failed

theorem list_still (inner : MockInner) : Still inner inner.list.1 :=
  record_still inner _

/-- The list holds exactly the machines the backend has, by id and name. -/
theorem list_ok {inner after : MockInner} {statuses : List MachineStatus}
    (listed : inner.list = (after, .ok statuses)) (name : MachineName) (id : MachineId) :
    (∃ status ∈ statuses, status.name = name ∧ status.id = id) ↔ inner.nameOf id = some name := by
  simp only [list, Prod.mk.injEq, Except.ok.injEq] at listed
  obtain ⟨-, rfl⟩ := listed
  constructor
  · rintro ⟨status, member, rfl, rfl⟩
    obtain ⟨⟨key, machine⟩, there, rfl⟩ := List.mem_map.mp member
    have present := Std.TreeMap.mem_toList_iff_getElem?_eq_some.mp there
    have found : inner.machines[key]? = some machine := present
    simp [nameOf, found]
  · intro named
    obtain ⟨machine, present, rfl⟩ := Option.map_eq_some_iff.mp named
    exact ⟨machine.status id,
      List.mem_map.mpr ⟨(id, machine), Std.TreeMap.mem_toList_iff_getElem?_eq_some.mpr present,
        rfl⟩, rfl, rfl⟩

/-! ## A call made by someone else -/

/-- A call as another holder of the backend makes it. -/
inductive Errand
  | create (spec : MachineSpec)
  | start (id : MachineId)
  | stop (id : MachineId) (timeoutMs : ℕ)
  | remove (id : MachineId) (force : Bool)
  | status (id : MachineId)
  | list

def run (inner : MockInner) (now : ℕ) : Errand → MockInner
  | .create spec => (inner.create spec now).1
  | .start id => (inner.start id).1
  | .stop id timeoutMs => (inner.stop id timeoutMs).1
  | .remove id force => (inner.remove id force).1
  | .status id => (inner.status id).1
  | .list => inner.list.1

theorem run_cases (inner : MockInner) (now : ℕ) (errand : Errand) :
    Still inner (inner.run now errand) ∨
      (∃ spec id, errand = .create spec ∧ Made inner (inner.run now errand) spec.name id) ∨
      ∃ name id, Dropped inner (inner.run now errand) name id := by
  cases errand with
  | create spec =>
    rcases made : inner.create spec now with ⟨after, error | id⟩
    · exact Or.inl (by simpa only [run, made] using create_error made)
    · exact Or.inr (Or.inl ⟨spec, id, rfl, by simpa only [run, made] using create_ok made⟩)
  | start id => exact Or.inl (start_still inner id)
  | stop id timeoutMs => exact Or.inl (stop_still inner id timeoutMs)
  | remove id force =>
    rcases removed : inner.remove id force with ⟨after, error | done⟩
    · exact Or.inl (by simpa only [run, removed] using remove_error removed)
    · obtain ⟨name, dropped⟩ := remove_ok removed
      exact Or.inr (Or.inr ⟨name, id, by simpa only [run, removed] using dropped⟩)
  | status id => exact Or.inl (status_still inner id)
  | list => exact Or.inl (list_still inner)

/-! ## The two tables agree -/

/-- The id is one the backend handed out. -/
def Issued (inner : MockInner) (id : MachineId) : Prop :=
  ∃ seq ≤ inner.nextSeq, id = mintedId seq

/-- The names are exactly those of the machines, and every id was handed out. -/
structure Consistent (inner : MockInner) : Prop where
  agrees : ∀ (name : MachineName) id, inner.names[name]? = some id ↔ inner.nameOf id = some name
  issued : ∀ {id name}, inner.nameOf id = some name → inner.Issued id

/-- The id was handed out and, while it has a machine, that machine has the name. -/
def Stamped (inner : MockInner) (name : MachineName) (id : MachineId) : Prop :=
  inner.Issued id ∧ ∀ other, inner.nameOf id = some other → other = name

theorem Consistent.stamped {inner : MockInner} (consistent : inner.Consistent)
    {name : MachineName} {id : MachineId} (named : inner.nameOf id = some name) :
    inner.Stamped name id :=
  ⟨consistent.issued named, fun _ again => Option.some.inj (again.symm.trans named)⟩

end MockInner

theorem minted_injective {left right : ℕ} (same : mintedId left = mintedId right) :
    left = right := by
  simp only [mintedId, MachineId.mk.injEq] at same
  have digits := congrArg String.toList same
  simp only [String.toList_append, List.append_cancel_left_eq] at digits
  have read := congrArg (fun text => Nat.ofDigitChars 10 text 0) digits
  simpa [toString, Nat.repr] using read

theorem consistent_empty : MockInner.Consistent {} where
  agrees name id := by simp [MockInner.nameOf]
  issued named := by simp [MockInner.nameOf] at named

/-- An id the backend hands out before its numbers run out is a new one. -/
theorem MockInner.Made.fresh {before after : MockInner} {name : MachineName} {id : MachineId}
    (made : before.Made after name id) (room : before.nextSeq + 1 < 2 ^ 32) :
    ¬ before.Issued id := by
  rintro ⟨seq, bound, same⟩
  have number := minted_injective (made.minted.symm.trans same)
  rw [made.seq, Nat.mod_eq_of_lt room] at number
  omega

namespace MockInner

variable {before after : MockInner} {name : MachineName} {id : MachineId}

/-! ### Kept by a call that makes and removes nothing -/

theorem Still.issued (still : before.Still after) :
    after.Issued id ↔ before.Issued id := by
  rw [Issued, Issued, still.seq]

theorem Still.consistent (still : before.Still after) (known : before.Consistent) :
    after.Consistent where
  agrees name id := by
    rw [still.names, still.nameOf]
    exact known.agrees name id
  issued named := still.issued.mpr (known.issued (still.nameOf _ ▸ named))

theorem Still.stamped (still : before.Still after) (stamped : before.Stamped name id) :
    after.Stamped name id :=
  ⟨still.issued.mpr stamped.1, fun other named => stamped.2 other (still.nameOf id ▸ named)⟩

/-! ### Kept by a call that makes a machine -/

theorem Made.issued {made : MachineId} {label : MachineName} (call : before.Made after label made)
    (room : before.nextSeq + 1 < 2 ^ 32) (issued : before.Issued id) : after.Issued id := by
  obtain ⟨seq, bound, same⟩ := issued
  refine ⟨seq, ?_, same⟩
  rw [call.seq, Nat.mod_eq_of_lt room]
  omega

theorem Made.issued_self (call : before.Made after name id) : after.Issued id :=
  ⟨after.nextSeq, Nat.le_refl _, call.minted⟩

theorem Made.stamped {made : MachineId} {label : MachineName}
    (call : before.Made after label made) (room : before.nextSeq + 1 < 2 ^ 32)
    (stamped : before.Stamped name id) : after.Stamped name id := by
  have distinct : id ≠ made := fun same => call.fresh room (same ▸ stamped.1)
  refine ⟨call.issued room stamped.1, fun other named => stamped.2 other ?_⟩
  rwa [call.nameOf, if_neg distinct] at named

theorem Made.consistent (call : before.Made after name id)
    (room : before.nextSeq + 1 < 2 ^ 32) (known : before.Consistent) : after.Consistent where
  agrees other machine := by
    rw [call.names, call.nameOf]
    by_cases sameName : other = name <;> by_cases sameId : machine = id
    · simp [sameName, sameId]
    · -- the name was free before, so no other machine has it
      have free : before.nameOf machine ≠ some name := fun named => by
        have held := (known.agrees name machine).mpr named
        rw [call.free] at held
        cases held
      simp [sameName, sameId, free, Ne.symm sameId]
    · -- the id is a new one, so no other name has it
      have fresh : before.names[other]? ≠ some id := fun held =>
        call.fresh room (known.issued ((known.agrees other id).mp held))
      simp [sameName, sameId, fresh, Ne.symm sameName]
    · simp only [if_neg sameName, if_neg sameId]
      exact known.agrees other machine
  issued {machine label} named := by
    by_cases same : machine = id
    · exact same ▸ call.issued_self
    · rw [call.nameOf, if_neg same] at named
      exact call.issued room (known.issued named)

/-! ### Kept by a call that removes a machine -/

theorem Dropped.issued {gone : MachineId} {label : MachineName}
    (call : before.Dropped after label gone) : after.Issued id ↔ before.Issued id := by
  rw [Issued, Issued, call.seq]

theorem Dropped.stamped {gone : MachineId} {label : MachineName}
    (call : before.Dropped after label gone) (stamped : before.Stamped name id) :
    after.Stamped name id := by
  refine ⟨call.issued.mpr stamped.1, fun other named => stamped.2 other ?_⟩
  rw [call.nameOf] at named
  split at named
  · cases named
  · exact named

theorem Dropped.consistent (call : before.Dropped after name id) (known : before.Consistent) :
    after.Consistent where
  agrees other machine := by
    have held := (known.agrees name id).mpr call.held
    rw [call.names, call.nameOf]
    by_cases sameName : other = name <;> by_cases sameId : machine = id
    · simp [sameName, sameId]
    · have apart : before.nameOf machine ≠ some name := fun named => by
        have again := (known.agrees name machine).mpr named
        rw [held] at again
        exact sameId (Option.some.inj again).symm
      simp [sameName, sameId, apart]
    · have apart : before.names[other]? ≠ some id := fun again => by
        have named := (known.agrees other id).mp again
        rw [call.held] at named
        exact sameName (Option.some.inj named).symm
      simp [sameName, sameId, apart]
    · simp only [if_neg sameName, if_neg sameId]
      exact known.agrees other machine
  issued {machine label} named := by
    rw [call.nameOf] at named
    split at named
    · cases named
    · exact call.issued.mpr (known.issued named)

/-- What later calls keep of the backend. -/
structure Evolves (before after : MockInner) : Prop where
  issued : ∀ {id}, before.Issued id → after.Issued id
  stamped : ∀ {name id}, before.Stamped name id → after.Stamped name id
  consistent : before.Consistent → after.Consistent

theorem Still.evolves (still : before.Still after) : before.Evolves after :=
  ⟨still.issued.mpr, still.stamped, still.consistent⟩

theorem Made.evolves (call : before.Made after name id) (room : before.nextSeq + 1 < 2 ^ 32) :
    before.Evolves after :=
  ⟨call.issued room, call.stamped room, call.consistent room⟩

theorem Dropped.evolves (call : before.Dropped after name id) : before.Evolves after :=
  ⟨call.issued.mpr, call.stamped, call.consistent⟩

end MockInner

end ADesk.Machines.Backend
