/- ADesk/Machines/Registered
   digest: When the registry of a manager that shares its calls among many tasks agrees with the
   backend. -/

import Mathlib.Data.List.Basic
import ADesk.Foundation.Execution
import ADesk.Foundation.Upkeep
import ADesk.Machines.Manager

set_option autoImplicit false

namespace ADesk.Machines.Registered

open ADesk.Foundation.Entries (set_entry append_entry)
open ADesk.Foundation.Execution
open ADesk.Foundation.Upkeep
open ADesk.Machines.Backend
open ADesk.Machines.Manager

/-! ## The registry by name -/

section Registry

variable {registry : MachineRegistry} {status : MachineStatus} {name : MachineName}
  {id : MachineId}

/-- The two maps of the registry hold the same machines. -/
def Paired (registry : MachineRegistry) : Prop :=
  ∀ name, registry.id name = (registry.get name).map MachineStatus.id

theorem insert_id (registry : MachineRegistry) (status : MachineStatus) (name : MachineName) :
    (registry.insert status).1.id name =
      if name = status.name then some status.id else registry.id name := by
  simp only [MachineRegistry.insert, MachineRegistry.id, Std.TreeMap.getElem?_insert,
    Std.LawfulEqCmp.compare_eq_iff_eq, eq_comm (a := name)]

theorem insert_get (registry : MachineRegistry) (status : MachineStatus) (name : MachineName) :
    (registry.insert status).1.get name =
      if name = status.name then some status else registry.get name := by
  simp only [MachineRegistry.insert, MachineRegistry.get, Std.TreeMap.getElem?_insert,
    Std.LawfulEqCmp.compare_eq_iff_eq, eq_comm (a := name)]

theorem remove_id (registry : MachineRegistry) (gone name : MachineName) :
    (registry.remove gone).1.id name = if name = gone then none else registry.id name := by
  simp only [MachineRegistry.remove, MachineRegistry.id, Std.TreeMap.getElem?_erase,
    Std.LawfulEqCmp.compare_eq_iff_eq, eq_comm (a := name)]

theorem remove_get (registry : MachineRegistry) (gone name : MachineName) :
    (registry.remove gone).1.get name = if name = gone then none else registry.get name := by
  simp only [MachineRegistry.remove, MachineRegistry.get, Std.TreeMap.getElem?_erase,
    Std.LawfulEqCmp.compare_eq_iff_eq, eq_comm (a := name)]

/-- A refresh is an insertion or is ignored. -/
theorem update_cases (registry : MachineRegistry) (status : MachineStatus) :
    (registry.id status.name ≠ none ∧
        (registry.update status).1 = (registry.insert status).1) ∨
      (registry.id status.name = none ∧ (registry.update status).1 = registry) := by
  cases inside : registry.ids.contains status.name with
  | true =>
    have member := Std.TreeMap.contains_iff_mem.mp inside
    refine Or.inl ⟨?_, ?_⟩
    · simpa [MachineRegistry.id] using member
    · simp only [MachineRegistry.update, MachineRegistry.insert, inside, Bool.not_true,
        Bool.false_eq_true, if_false]
  | false =>
    have outside : status.name ∉ registry.ids := fun member => by
      rw [Std.TreeMap.contains_iff_mem.mpr member] at inside
      cases inside
    refine Or.inr ⟨Std.TreeMap.getElem?_eq_none outside, ?_⟩
    simp only [MachineRegistry.update, inside, Bool.not_false, if_true]

theorem Paired.insert (paired : Paired registry) : Paired (registry.insert status).1 := by
  intro name
  rw [insert_id, insert_get]
  split
  · rfl
  · exact paired name

theorem Paired.remove (paired : Paired registry) : Paired (registry.remove name).1 := by
  intro other
  rw [remove_id, remove_get]
  split
  · rfl
  · exact paired other

theorem paired_empty : Paired {} := fun name => by
  simp [MachineRegistry.id, MachineRegistry.get]

theorem Paired.foldl (statuses : List MachineStatus) (paired : Paired registry) :
    Paired (statuses.foldl (fun registry status => (registry.insert status).1) registry) := by
  induction statuses generalizing registry with
  | nil => exact paired
  | cons status rest ih => exact ih paired.insert

/-- What a rebuild holds it took from the list. -/
theorem foldl_origin {statuses : List MachineStatus}
    (held : (statuses.foldl (fun registry status => (registry.insert status).1) registry).id
      name = some id) :
    (∃ status ∈ statuses, status.name = name ∧ status.id = id) ∨
      registry.id name = some id := by
  induction statuses generalizing registry with
  | nil => exact Or.inr held
  | cons status rest ih =>
    rcases ih held with ⟨other, member, found⟩ | before
    · exact Or.inl ⟨other, List.mem_cons_of_mem _ member, found⟩
    · rw [insert_id] at before
      split at before
      · next same =>
        exact Or.inl ⟨status, List.mem_cons_self, same.symm, Option.some.inj before⟩
      · exact Or.inr before

/-- A rebuild from a list with one id for the name holds that id. -/
theorem foldl_held {statuses : List MachineStatus}
    (agree : ∀ status ∈ statuses, status.name = name → status.id = id)
    (held : (∃ status ∈ statuses, status.name = name) ∨ registry.id name = some id) :
    (statuses.foldl (fun registry status => (registry.insert status).1) registry).id name =
      some id := by
  induction statuses generalizing registry with
  | nil =>
    rcases held with ⟨status, member, -⟩ | held
    · cases member
    · exact held
  | cons status rest ih =>
    refine ih (fun other member => agree other (List.mem_cons_of_mem _ member)) ?_
    rw [insert_id]
    by_cases same : name = status.name
    · exact Or.inr (by rw [if_pos same, agree status List.mem_cons_self same.symm])
    · rw [if_neg same]
      refine held.imp_left fun ⟨other, member, named⟩ => ?_
      rcases List.mem_cons.mp member with rfl | inside
      · exact absurd named.symm same
      · exact ⟨other, inside, named⟩

end Registry

/-! ## What one step of a call does -/

/-- Every way a call can go on, with what it did to the estate. -/
inductive Advanced (estate : Estate) : Stage → Estate → Stage → Prop
  | created {spec : MachineSpec} {id : MachineId} {backend : MockInner}
      (made : estate.backend.Made backend spec.name id) :
      Advanced estate (.creating spec)
        { estate with backend := backend, adopted := id :: estate.adopted } (.reading spec id)
  | read {spec : MachineSpec} {backend : MockInner} {status : MachineStatus}
      (still : estate.backend.Still backend)
      (found : estate.backend.nameOf status.id = some status.name) :
      Advanced estate (.reading spec status.id) { estate with backend := backend }
        (.inserting status)
  | unread {spec : MachineSpec} {id : MachineId} {backend : MockInner} {error : MachineError}
      (still : estate.backend.Still backend) (absent : estate.backend.nameOf id = none) :
      Advanced estate (.reading spec id) { estate with backend := backend }
        (.answered (.error error))
  | inserted {status : MachineStatus} :
      Advanced estate (.inserting status)
        { estate with registry := (estate.registry.insert status).1 }
        (.answered (.ok (.status status)))
  | started {id : MachineId} {backend : MockInner} (still : estate.backend.Still backend) :
      Advanced estate (.starting id) { estate with backend := backend } (.refreshing id)
  | stopped {id : MachineId} {timeoutMs : ℕ} {backend : MockInner}
      (still : estate.backend.Still backend) :
      Advanced estate (.stopping id timeoutMs) { estate with backend := backend } (.refreshing id)
  | refreshed {backend : MockInner} {status : MachineStatus}
      (still : estate.backend.Still backend)
      (found : estate.backend.nameOf status.id = some status.name) :
      Advanced estate (.refreshing status.id) { estate with backend := backend }
        (.updating status)
  | updated {status : MachineStatus} :
      Advanced estate (.updating status)
        { estate with registry := (estate.registry.update status).1 }
        (.answered (.ok (.status status)))
  | observed {name : MachineName} {id : MachineId} {force : Bool} {last : MachineStatus}
      {backend : MockInner} (still : estate.backend.Still backend) :
      Advanced estate (.observing name id force) { estate with backend := backend }
        (.removing name id force last)
  | removed {name held : MachineName} {id : MachineId} {force : Bool} {last : MachineStatus}
      {backend : MockInner} (dropped : estate.backend.Dropped backend held id) :
      Advanced estate (.removing name id force last)
        { estate with backend := backend, forgotten := id :: estate.forgotten }
        (.forgetting name last)
  | forgot {name : MachineName} {last : MachineStatus} :
      Advanced estate (.forgetting name last)
        { estate with registry := (estate.registry.remove name).1 }
        (.answered (.ok (.status last)))
  | listed {backend : MockInner} {statuses : List MachineStatus}
      (still : estate.backend.Still backend)
      (found : ∀ name id, (∃ status ∈ statuses, status.name = name ∧ status.id = id) ↔
        estate.backend.nameOf id = some name) :
      Advanced estate .listing
        { estate with
          backend := backend
          adopted := statuses.map MachineStatus.id ++ estate.adopted }
        (.rebuilding statuses)
  | rebuilt {statuses : List MachineStatus} :
      Advanced estate (.rebuilding statuses) { estate with registry := .rebuilt statuses }
        (.answered (.ok (.statuses statuses)))
  | failed {stage : Stage} {backend : MockInner} {error : MachineError}
      (still : estate.backend.Still backend) (refusable : (stage.refused error).isSome = true)
      (unmade : ∀ spec id, stage ≠ .reading spec id) :
      Advanced estate stage { estate with backend := backend } (.answered (.error error))

theorem next_advanced {estate after : Estate} {now : ℕ} {stage next : Stage}
    (taken : stage.next estate now = some (after, next)) : Advanced estate stage after next := by
  cases stage with
  | creating spec =>
    rcases made : estate.backend.create spec now with ⟨backend, error | id⟩
    · simp only [Stage.next, made, Option.some.injEq, Prod.mk.injEq] at taken
      obtain ⟨rfl, rfl⟩ := taken
      exact .failed (MockInner.create_error made) rfl (by simp)
    · simp only [Stage.next, made, Option.some.injEq, Prod.mk.injEq] at taken
      obtain ⟨rfl, rfl⟩ := taken
      exact .created (MockInner.create_ok made)
  | reading spec id =>
    have still := MockInner.status_still estate.backend id
    rcases read : estate.backend.status id with ⟨backend, error | status⟩
    · simp only [Stage.next, read, Option.some.injEq, Prod.mk.injEq] at taken
      obtain ⟨rfl, rfl⟩ := taken
      exact .unread (by simpa only [read] using still) (MockInner.status_error read)
    · simp only [Stage.next, read, Option.some.injEq, Prod.mk.injEq] at taken
      obtain ⟨rfl, rfl⟩ := taken
      obtain ⟨rfl, found⟩ := MockInner.status_ok read
      exact .read (by simpa only [read] using still) found
  | inserting status =>
    simp only [Stage.next, Option.some.injEq, Prod.mk.injEq] at taken
    obtain ⟨rfl, rfl⟩ := taken
    exact .inserted
  | starting id =>
    have still := MockInner.start_still estate.backend id
    rcases read : estate.backend.start id with ⟨backend, error | ⟨⟩⟩
    · simp only [Stage.next, read, Option.some.injEq, Prod.mk.injEq] at taken
      obtain ⟨rfl, rfl⟩ := taken
      exact .failed (by simpa only [read] using still) rfl (by simp)
    · simp only [Stage.next, read, Option.some.injEq, Prod.mk.injEq] at taken
      obtain ⟨rfl, rfl⟩ := taken
      exact .started (by simpa only [read] using still)
  | stopping id timeoutMs =>
    have still := MockInner.stop_still estate.backend id timeoutMs
    rcases read : estate.backend.stop id timeoutMs with ⟨backend, error | ⟨⟩⟩
    · simp only [Stage.next, read, Option.some.injEq, Prod.mk.injEq] at taken
      obtain ⟨rfl, rfl⟩ := taken
      exact .failed (by simpa only [read] using still) rfl (by simp)
    · simp only [Stage.next, read, Option.some.injEq, Prod.mk.injEq] at taken
      obtain ⟨rfl, rfl⟩ := taken
      exact .stopped (by simpa only [read] using still)
  | refreshing id =>
    have still := MockInner.status_still estate.backend id
    rcases read : estate.backend.status id with ⟨backend, error | status⟩
    · simp only [Stage.next, read, Option.some.injEq, Prod.mk.injEq] at taken
      obtain ⟨rfl, rfl⟩ := taken
      exact .failed (by simpa only [read] using still) rfl (by simp)
    · simp only [Stage.next, read, Option.some.injEq, Prod.mk.injEq] at taken
      obtain ⟨rfl, rfl⟩ := taken
      obtain ⟨rfl, found⟩ := MockInner.status_ok read
      exact .refreshed (by simpa only [read] using still) found
  | updating status =>
    simp only [Stage.next, Option.some.injEq, Prod.mk.injEq] at taken
    obtain ⟨rfl, rfl⟩ := taken
    exact .updated
  | observing name id force =>
    have still := MockInner.status_still estate.backend id
    rcases read : estate.backend.status id with ⟨backend, error | last⟩
    · simp only [Stage.next, read, Option.some.injEq, Prod.mk.injEq] at taken
      obtain ⟨rfl, rfl⟩ := taken
      exact .failed (by simpa only [read] using still) rfl (by simp)
    · simp only [Stage.next, read, Option.some.injEq, Prod.mk.injEq] at taken
      obtain ⟨rfl, rfl⟩ := taken
      exact .observed (by simpa only [read] using still)
  | removing name id force last =>
    rcases removed : estate.backend.remove id force with ⟨backend, error | ⟨⟩⟩
    · simp only [Stage.next, removed, Option.some.injEq, Prod.mk.injEq] at taken
      obtain ⟨rfl, rfl⟩ := taken
      exact .failed (MockInner.remove_error removed) rfl (by simp)
    · simp only [Stage.next, removed, Option.some.injEq, Prod.mk.injEq] at taken
      obtain ⟨rfl, rfl⟩ := taken
      obtain ⟨held, dropped⟩ := MockInner.remove_ok removed
      exact .removed dropped
  | forgetting name last =>
    simp only [Stage.next, Option.some.injEq, Prod.mk.injEq] at taken
    obtain ⟨rfl, rfl⟩ := taken
    exact .forgot
  | listing =>
    have still := MockInner.list_still estate.backend
    rcases listed : estate.backend.list with ⟨backend, error | statuses⟩
    · simp only [Stage.next, listed, Option.some.injEq, Prod.mk.injEq] at taken
      obtain ⟨rfl, rfl⟩ := taken
      exact .failed (by simpa only [listed] using still) rfl (by simp)
    · simp only [Stage.next, listed, Option.some.injEq, Prod.mk.injEq] at taken
      obtain ⟨rfl, rfl⟩ := taken
      exact .listed (by simpa only [listed] using still) (MockInner.list_ok listed)
  | rebuilding statuses =>
    simp only [Stage.next, Option.some.injEq, Prod.mk.injEq] at taken
    obtain ⟨rfl, rfl⟩ := taken
    exact .rebuilt
  | answered result => simp [Stage.next] at taken

/-! ## What a call in flight still does to the registry -/

/-- The call is about to register the name with the id. -/
def Stage.Brings : Stage → MachineName → MachineId → Prop
  | .reading spec made, name, id => spec.name = name ∧ made = id
  | .inserting status, name, id => status.name = name ∧ status.id = id
  | .rebuilding statuses, name, id => ∃ status ∈ statuses, status.name = name ∧ status.id = id
  | _, _, _ => False

/-- The call is about to take the id off the name. -/
def Stage.Clears : Stage → MachineName → MachineId → Prop
  | .forgetting gone _, name, _ => gone = name
  | .rebuilding statuses, name, id => ¬ ∃ status ∈ statuses, status.name = name ∧ status.id = id
  | _, _, _ => False

/-- The names of the backend, the registry of them, and the two records of the past. -/
def books (estate : Estate) : Books MachineName MachineId where
  truth name := estate.backend.names[name]?
  cache := estate.registry.id
  mine id := id ∈ estate.adopted
  gone id := id ∈ estate.forgotten

/-- The backend has the machine under the name, and it was created or listed through this
manager. -/
def Owned (estate : Estate) (name : MachineName) (id : MachineId) : Prop :=
  estate.backend.names[name]? = some id ∧ id ∈ estate.adopted

/-- Another call in flight is about to register the name with the id. -/
def BroughtElsewhere (state : State) (ticket : ℕ) (name : MachineName) (id : MachineId) : Prop :=
  Elsewhere state.calls ticket fun call => Stage.Brings call name id

/-- Another call in flight is about to take the id off the name. -/
def ClearedElsewhere (state : State) (ticket : ℕ) (name : MachineName) (id : MachineId) : Prop :=
  Elsewhere state.calls ticket fun call => Stage.Clears call name id

/-! ## The condition on the steps -/

/-- A status may be written: it takes the name from no other machine of this manager and is not
of a machine this manager removed, unless another call is about to put that right. -/
structure Writable (state : State) (ticket : ℕ) (status : MachineStatus) : Prop where
  displaces : ∀ id, Owned state.toEstate status.name id → id = status.id ∨
    BroughtElsewhere state ticket status.name id
  revives : status.id ∈ state.forgotten → ClearedElsewhere state ticket status.name status.id

/-- The condition on the next step of a call. -/
def Stage.Orderly (state : State) (ticket : ℕ) : Stage → Prop
  | .creating spec =>
    state.backend.names[spec.name]? = none → state.backend.nextSeq + 1 < 2 ^ 32
  | .inserting status => Writable state ticket status
  | .updating status => state.registry.id status.name ≠ none → Writable state ticket status
  | .forgetting name _ =>
    ∀ id, Owned state.toEstate name id → BroughtElsewhere state ticket name id
  | .rebuilding statuses =>
    (∀ name id, Owned state.toEstate name id →
      (∃ status ∈ statuses, status.name = name ∧ status.id = id) ∨
        BroughtElsewhere state ticket name id) ∧
    ∀ status ∈ statuses, status.id ∈ state.forgotten →
      ClearedElsewhere state ticket status.name status.id
  | _ => True

/-- The condition on a step: the writes to the registry are in order, the status call of a
`create` does not fail on a machine nobody else registers, and the ids have not run out. -/
def Orderly (state : State) : Action → Prop
  | .begin _ => True
  | .advance ticket _ =>
    ∀ stage : Stage, state.calls[ticket]? = some stage → Stage.Orderly state ticket stage
  | .refuse ticket _ =>
    ∀ (spec : MachineSpec) (id : MachineId),
      state.calls[ticket]? = some (Stage.reading spec id) →
      Owned state.toEstate spec.name id →
      state.registry.id spec.name = some id ∨ BroughtElsewhere state ticket spec.name id
  | .elsewhere errand _ =>
    ∀ spec, errand = .create spec → state.backend.names[spec.name]? = none →
      state.backend.nextSeq + 1 < 2 ^ 32

theorem orderly_advance {state : State} {ticket now : ℕ} (stage : Stage)
    (present : state.calls[ticket]? = some stage) (meets : Stage.Orderly state ticket stage) :
    Orderly state (.advance ticket now) :=
  fun _ there => Option.some.inj (present.symm.trans there) ▸ meets

/-! ## Every id keeps its name -/

/-- What a call remembers of a machine was true of it. -/
def Stage.Faithful (backend : MockInner) : Stage → Prop
  | .inserting status => backend.Stamped status.name status.id
  | .updating status => backend.Stamped status.name status.id
  | .observing name id _ => backend.Stamped name id
  | .removing name id _ _ => backend.Stamped name id
  | .rebuilding statuses =>
    (∀ status ∈ statuses, backend.Stamped status.name status.id) ∧
      ∀ status ∈ statuses, ∀ other ∈ statuses, other.name = status.name → other.id = status.id
  | _ => True

/-- What holds of the estate whatever the calls do. -/
structure Grounded (estate : Estate) : Prop where
  consistent : estate.backend.Consistent
  adopted : ∀ id ∈ estate.adopted, estate.backend.Issued id
  registered : ∀ {name id}, estate.registry.id name = some id → estate.backend.Stamped name id
  paired : Paired estate.registry

theorem Stage.Faithful.evolves {before after : MockInner} {stage : Stage}
    (faithful : Stage.Faithful before stage) (later : before.Evolves after) :
    Stage.Faithful after stage := by
  cases stage with
  | inserting status => exact later.stamped faithful
  | updating status => exact later.stamped faithful
  | observing name id force => exact later.stamped faithful
  | removing name id force last => exact later.stamped faithful
  | rebuilding statuses =>
    exact ⟨fun status member => later.stamped (faithful.1 status member), faithful.2⟩
  | _ => trivial

theorem Grounded.evolves {estate : Estate} (grounded : Grounded estate) {backend : MockInner}
    (later : estate.backend.Evolves backend) : Grounded { estate with backend := backend } where
  consistent := later.consistent grounded.consistent
  adopted id member := later.issued (grounded.adopted id member)
  registered held := later.stamped (grounded.registered held)
  paired := grounded.paired

theorem Grounded.written {estate : Estate} (grounded : Grounded estate) {status : MachineStatus}
    (stamped : estate.backend.Stamped status.name status.id) :
    Grounded { estate with registry := (estate.registry.insert status).1 } where
  consistent := grounded.consistent
  adopted := grounded.adopted
  registered {name id} held := by
    rw [insert_id] at held
    split at held
    · next same => exact same ▸ Option.some.inj held ▸ stamped
    · exact grounded.registered held
  paired := grounded.paired.insert

theorem Grounded.refreshed {estate : Estate} (grounded : Grounded estate) {status : MachineStatus}
    (stamped : estate.backend.Stamped status.name status.id) :
    Grounded { estate with registry := (estate.registry.update status).1 } := by
  rcases update_cases estate.registry status with ⟨-, same⟩ | ⟨-, same⟩
  · rw [same]
    exact grounded.written stamped
  · rw [same]
    exact grounded

theorem Grounded.cleared {estate : Estate} (grounded : Grounded estate) (name : MachineName) :
    Grounded { estate with registry := (estate.registry.remove name).1 } where
  consistent := grounded.consistent
  adopted := grounded.adopted
  registered {other id} held := by
    rw [remove_id] at held
    split at held
    · cases held
    · exact grounded.registered held
  paired := grounded.paired.remove

theorem rebuilt_origin {statuses : List MachineStatus} {name : MachineName} {id : MachineId}
    (held : (MachineRegistry.rebuilt statuses).id name = some id) :
    ∃ status ∈ statuses, status.name = name ∧ status.id = id := by
  rcases foldl_origin held with found | empty
  · exact found
  · simp [MachineRegistry.id] at empty

theorem Grounded.relisted {estate : Estate} (grounded : Grounded estate)
    {statuses : List MachineStatus}
    (stamped : ∀ status ∈ statuses, estate.backend.Stamped status.name status.id) :
    Grounded { estate with registry := .rebuilt statuses } where
  consistent := grounded.consistent
  adopted := grounded.adopted
  registered {name id} held := by
    obtain ⟨status, member, rfl, rfl⟩ := rebuilt_origin held
    exact stamped status member
  paired := paired_empty.foldl statuses

/-- One step of a call keeps the estate grounded, what the call remembers true, and lets the
backend only go on. -/
theorem Advanced.grounded {estate after : Estate} {stage next : Stage}
    (advanced : Advanced estate stage after next) (grounded : Grounded estate)
    (faithful : Stage.Faithful estate.backend stage)
    (room : ∀ spec, stage = .creating spec → estate.backend.names[spec.name]? = none →
      estate.backend.nextSeq + 1 < 2 ^ 32) :
    Grounded after ∧ Stage.Faithful after.backend next ∧
      estate.backend.Evolves after.backend := by
  have same : estate.backend.Evolves estate.backend := (MockInner.Still.refl _).evolves
  cases advanced with
  | @created spec id backend made =>
    have later := made.evolves (room spec rfl made.free)
    have kept := grounded.evolves later
    refine ⟨⟨kept.consistent, fun other member => ?_, kept.registered, kept.paired⟩, trivial,
      later⟩
    rcases List.mem_cons.mp member with rfl | inside
    · exact made.issued_self
    · exact kept.adopted other inside
  | read still found =>
    exact ⟨grounded.evolves still.evolves,
      still.evolves.stamped (grounded.consistent.stamped found), still.evolves⟩
  | unread still absent => exact ⟨grounded.evolves still.evolves, trivial, still.evolves⟩
  | inserted => exact ⟨grounded.written faithful, trivial, same⟩
  | started still => exact ⟨grounded.evolves still.evolves, trivial, still.evolves⟩
  | stopped still => exact ⟨grounded.evolves still.evolves, trivial, still.evolves⟩
  | refreshed still found =>
    exact ⟨grounded.evolves still.evolves,
      still.evolves.stamped (grounded.consistent.stamped found), still.evolves⟩
  | updated => exact ⟨grounded.refreshed faithful, trivial, same⟩
  | observed still =>
    exact ⟨grounded.evolves still.evolves, still.evolves.stamped faithful, still.evolves⟩
  | removed dropped =>
    have kept := grounded.evolves dropped.evolves
    exact ⟨⟨kept.consistent, kept.adopted, kept.registered, kept.paired⟩, trivial,
      dropped.evolves⟩
  | forgot => exact ⟨grounded.cleared _, trivial, same⟩
  | @listed backend statuses still found =>
    have kept := grounded.evolves still.evolves
    have named : ∀ status ∈ statuses, estate.backend.nameOf status.id = some status.name :=
      fun status member => (found status.name status.id).mp ⟨status, member, rfl, rfl⟩
    refine ⟨⟨kept.consistent, fun id member => ?_, kept.registered, kept.paired⟩,
      ⟨fun status member => ?_, fun status member other there sameName => ?_⟩, still.evolves⟩
    · rcases List.mem_append.mp member with listed | inside
      · obtain ⟨status, there, rfl⟩ := List.mem_map.mp listed
        exact still.evolves.issued (grounded.consistent.issued (named status there))
      · exact kept.adopted id inside
    · exact still.evolves.stamped (grounded.consistent.stamped (named status member))
    · -- the backend has one machine a name
      have first := (grounded.consistent.agrees _ _).mpr (named status member)
      have second := (grounded.consistent.agrees _ _).mpr (named other there)
      rw [sameName, first] at second
      exact (Option.some.inj second).symm
  | rebuilt => exact ⟨grounded.relisted faithful.1, trivial, same⟩
  | failed still refusable unmade =>
    exact ⟨grounded.evolves still.evolves, trivial, still.evolves⟩

/-! ## One step of a call upholds the registry -/

theorem books_still {estate : Estate} {backend : MockInner}
    (still : estate.backend.Still backend) :
    books { estate with backend := backend } = books estate := by
  rw [books, books]
  congr 1
  funext name
  exact still.names name

section Step

variable {state : State} {ticket : ℕ}

/-- A status is written. -/
theorem written_upheld {status : MachineStatus} {stage next : Stage}
    (upheld : Upheld Stage.Brings Stage.Clears (books state.toEstate) state.calls)
    (present : state.calls[ticket]? = some stage)
    (brought : ∀ name id, Stage.Brings stage name id → status.name = name ∧ status.id = id)
    (cleared : ∀ name id, ¬ Stage.Clears stage name id)
    (writable : Writable state ticket status) :
    Upheld Stage.Brings Stage.Clears
      (books { state.toEstate with registry := (state.registry.insert status).1 })
      (state.calls.set ticket next) := by
  refine upheld.advance present (fun name id there own owed => ?_) fun name id cached lost owed => ?_
  · change (state.registry.insert status).1.id name = some id ∨ _
    rw [insert_id]
    by_cases same : name = status.name
    · subst same
      rw [if_pos rfl]
      rcases writable.displaces id ⟨there, own⟩ with mine | elsewhere
      · exact Or.inl (congrArg some mine.symm)
      · exact Or.inr (Or.inr elsewhere)
    · rw [if_neg same]
      rcases owed there own with cached | doing | elsewhere
      · exact Or.inl cached
      · exact absurd (brought name id doing).1.symm same
      · exact Or.inr (Or.inr elsewhere)
  · change (state.registry.insert status).1.id name = some id at cached
    rw [insert_id] at cached
    split at cached
    · next same =>
      obtain rfl := Option.some.inj cached
      exact Or.inr (same ▸ writable.revives lost)
    · rcases owed cached lost with doing | elsewhere
      · exact absurd doing (cleared name id)
      · exact Or.inr elsewhere

/-- A machine is made for a call that is about to register it. -/
theorem created_upheld {spec : MachineSpec} {id : MachineId} {backend : MockInner}
    (upheld : Upheld Stage.Brings Stage.Clears (books state.toEstate) state.calls)
    (present : state.calls[ticket]? = some (Stage.creating spec))
    (made : state.backend.Made backend spec.name id) (grounded : Grounded state.toEstate)
    (room : state.backend.nextSeq + 1 < 2 ^ 32) :
    Upheld Stage.Brings Stage.Clears
      (books { state.toEstate with backend := backend, adopted := id :: state.adopted })
      (state.calls.set ticket (.reading spec id)) := by
  refine upheld.advance present (fun name other there own owed => ?_)
    fun name other cached lost owed => Or.inr ?_
  · change backend.names[name]? = some other at there
    rw [made.names] at there
    split at there
    · next same => exact Or.inr (Or.inl ⟨same.symm, Option.some.inj there⟩)
    · rcases List.mem_cons.mp own with rfl | before
      · -- the id is new, so it was under no name before
        have named := (grounded.consistent.agrees name other).mp there
        exact absurd (grounded.consistent.issued named) (made.fresh room)
      · rcases owed there before with cached | doing | elsewhere
        · exact Or.inl cached
        · exact doing.elim
        · exact Or.inr (Or.inr elsewhere)
  · exact (owed cached lost).resolve_left fun doing => doing

/-- A machine is removed by a call that is about to forget it. -/
theorem removed_upheld {name held : MachineName} {id : MachineId} {force : Bool}
    {last : MachineStatus} {backend : MockInner}
    (upheld : Upheld Stage.Brings Stage.Clears (books state.toEstate) state.calls)
    (present : state.calls[ticket]? = some (Stage.removing name id force last))
    (dropped : state.backend.Dropped backend held id) (grounded : Grounded state.toEstate)
    (stamped : state.backend.Stamped name id) :
    Upheld Stage.Brings Stage.Clears
      (books { state.toEstate with backend := backend, forgotten := id :: state.forgotten })
      (state.calls.set ticket (.forgetting name last)) := by
  refine upheld.advance present (fun other machine there own owed => ?_)
    fun other machine cached lost owed => ?_
  · change backend.names[other]? = some machine at there
    rw [dropped.names] at there
    split at there
    · cases there
    · rcases owed there own with cached | doing | elsewhere
      · exact Or.inl cached
      · exact doing.elim
      · exact Or.inr (Or.inr elsewhere)
  · rcases List.mem_cons.mp lost with rfl | before
    · -- the registry and the call knew the machine by its one name
      have first := stamped.2 held dropped.held
      have second := (grounded.registered cached).2 held dropped.held
      exact Or.inl (first.symm.trans second)
    · rcases owed cached before with doing | elsewhere
      · exact doing.elim
      · exact Or.inr elsewhere

theorem forgot_upheld {name : MachineName} {last : MachineStatus} {next : Stage}
    (upheld : Upheld Stage.Brings Stage.Clears (books state.toEstate) state.calls)
    (present : state.calls[ticket]? = some (Stage.forgetting name last))
    (orderly : ∀ id, Owned state.toEstate name id → BroughtElsewhere state ticket name id) :
    Upheld Stage.Brings Stage.Clears
      (books { state.toEstate with registry := (state.registry.remove name).1 })
      (state.calls.set ticket next) := by
  refine upheld.advance present (fun other id there own owed => ?_)
    fun other id cached lost owed => ?_
  · change (state.registry.remove name).1.id other = some id ∨ _
    rw [remove_id]
    by_cases same : other = name
    · exact Or.inr (Or.inr (same ▸ orderly id ⟨same ▸ there, own⟩))
    · rw [if_neg same]
      rcases owed there own with cached | doing | elsewhere
      · exact Or.inl cached
      · exact doing.elim
      · exact Or.inr (Or.inr elsewhere)
  · change (state.registry.remove name).1.id other = some id at cached
    rw [remove_id] at cached
    split at cached
    · cases cached
    · next apart =>
      rcases owed cached lost with doing | elsewhere
      · exact absurd doing.symm apart
      · exact Or.inr elsewhere

theorem listed_upheld {statuses : List MachineStatus} {backend : MockInner}
    (upheld : Upheld Stage.Brings Stage.Clears (books state.toEstate) state.calls)
    (present : state.calls[ticket]? = some Stage.listing)
    (still : state.backend.Still backend) (grounded : Grounded state.toEstate)
    (found : ∀ name id, (∃ status ∈ statuses, status.name = name ∧ status.id = id) ↔
      state.backend.nameOf id = some name) :
    Upheld Stage.Brings Stage.Clears
      (books { state.toEstate with
        backend := backend, adopted := statuses.map MachineStatus.id ++ state.adopted })
      (state.calls.set ticket (.rebuilding statuses)) := by
  refine upheld.advance present (fun name id there own owed => ?_)
    fun name id cached lost owed => Or.inr ?_
  · change backend.names[name]? = some id at there
    rw [still.names] at there
    exact Or.inr (Or.inl ((found name id).mpr ((grounded.consistent.agrees name id).mp there)))
  · exact (owed cached lost).resolve_left fun doing => doing

theorem rebuilt_upheld {statuses : List MachineStatus} {next : Stage}
    (upheld : Upheld Stage.Brings Stage.Clears (books state.toEstate) state.calls)
    (present : state.calls[ticket]? = some (Stage.rebuilding statuses))
    (faithful : Stage.Faithful state.backend (.rebuilding statuses))
    (orderly : Stage.Orderly state ticket (.rebuilding statuses)) :
    Upheld Stage.Brings Stage.Clears
      (books { state.toEstate with registry := .rebuilt statuses })
      (state.calls.set ticket next) := by
  refine upheld.advance present (fun name id there own owed => ?_)
    fun name id cached lost owed => ?_
  · rcases orderly.1 name id ⟨there, own⟩ with ⟨status, member, rfl, rfl⟩ | elsewhere
    · refine Or.inl (foldl_held (fun other inside same => ?_) (Or.inl ⟨status, member, rfl⟩))
      exact faithful.2 status member other inside same
    · exact Or.inr (Or.inr elsewhere)
  · obtain ⟨status, member, rfl, rfl⟩ := rebuilt_origin cached
    exact Or.inr (orderly.2 status member lost)

/-- One orderly step of a call upholds the registry. -/
theorem Advanced.upheld {after : Estate} {stage next : Stage}
    (advanced : Advanced state.toEstate stage after next)
    (present : state.calls[ticket]? = some stage)
    (upheld : Upheld Stage.Brings Stage.Clears (books state.toEstate) state.calls)
    (grounded : Grounded state.toEstate) (faithful : Stage.Faithful state.backend stage)
    (orderly : Stage.Orderly state ticket stage) :
    Upheld Stage.Brings Stage.Clears (books after) (state.calls.set ticket next) := by
  have quiet : ∀ {stage next : Stage}, state.calls[ticket]? = some stage →
      (∀ name id, ¬ Stage.Brings stage name id) → (∀ name id, ¬ Stage.Clears stage name id) →
      Upheld Stage.Brings Stage.Clears (books state.toEstate) (state.calls.set ticket next) :=
    fun present brings clears => upheld.idle present
      (fun name id _ _ doing => absurd doing (brings name id))
      fun name id doing => absurd doing (clears name id)
  cases advanced with
  | created made => exact created_upheld upheld present made grounded (orderly made.free)
  | @read spec backend status still found =>
    rw [books_still still]
    refine upheld.idle present (fun name id there own doing => Or.inr (Or.inl ?_))
      fun name id doing => doing.elim
    obtain ⟨rfl, rfl⟩ := doing
    have named := (grounded.consistent.agrees _ _).mp there
    exact ⟨Option.some.inj (found.symm.trans named), rfl⟩
  | @unread spec id backend error still absent =>
    rw [books_still still]
    refine upheld.idle present (fun name other there own doing => ?_) fun name other doing =>
      doing.elim
    obtain ⟨rfl, rfl⟩ := doing
    have named := (grounded.consistent.agrees _ _).mp there
    rw [absent] at named
    cases named
  | inserted =>
    exact written_upheld upheld present (fun _ _ doing => doing) (fun _ _ doing => doing) orderly
  | started still =>
    rw [books_still still]
    exact quiet present (fun _ _ doing => doing) fun _ _ doing => doing
  | stopped still =>
    rw [books_still still]
    exact quiet present (fun _ _ doing => doing) fun _ _ doing => doing
  | refreshed still found =>
    rw [books_still still]
    exact quiet present (fun _ _ doing => doing) fun _ _ doing => doing
  | @updated status =>
    rcases update_cases state.registry status with ⟨known, same⟩ | ⟨-, same⟩
    · rw [same]
      exact written_upheld upheld present (fun _ _ doing => doing.elim)
        (fun _ _ doing => doing) (orderly known)
    · rw [same]
      exact quiet present (fun _ _ doing => doing) fun _ _ doing => doing
  | observed still =>
    rw [books_still still]
    exact quiet present (fun _ _ doing => doing) fun _ _ doing => doing
  | removed dropped => exact removed_upheld upheld present dropped grounded faithful
  | forgot => exact forgot_upheld upheld present orderly
  | listed still found => exact listed_upheld upheld present still grounded found
  | rebuilt => exact rebuilt_upheld upheld present faithful orderly
  | failed still refusable unmade =>
    rw [books_still still]
    refine quiet present (fun name id doing => ?_) fun name id doing => ?_
    · cases stage with
      | reading spec id => exact unmade spec id rfl
      | inserting status => cases refusable
      | rebuilding statuses => cases refusable
      | _ => exact doing
    · cases stage with
      | forgetting name last => cases refusable
      | rebuilding statuses => cases refusable
      | _ => exact doing

end Step

/-! ## Every run -/

/-- What holds in every state of an orderly run. -/
structure Sound (state : State) : Prop where
  grounded : Grounded state.toEstate
  faithful : ∀ {ticket : ℕ} {stage : Stage}, state.calls[ticket]? = some stage →
    Stage.Faithful state.backend stage
  upheld : Upheld Stage.Brings Stage.Clears (books state.toEstate) state.calls

theorem sound_start : Sound {} where
  grounded :=
    { consistent := consistent_empty
      adopted := fun _ member => by cases member
      registered := fun held => by simp [MachineRegistry.id] at held
      paired := paired_empty }
  faithful present := by simp at present
  upheld :=
    { known := fun _ own => by cases own
      current := fun _ lost => by cases lost }

theorem begin_faithful {estate : Estate} (grounded : Grounded estate) (request : Request) :
    Stage.Faithful estate.backend (begin estate.registry request) := by
  have resolved : ∀ {name id}, resolve estate.registry name = .ok id →
      estate.backend.Stamped name id := fun {name id} found => by
    rw [resolve] at found
    split at found
    · next held => exact Except.ok.inj found ▸ grounded.registered held
    · cases found
  cases request with
  | create spec =>
    rw [begin]
    split
    · trivial
    · trivial
  | remove name force =>
    rw [begin]
    split
    · next id found => exact resolved found
    · trivial
  | list => trivial
  | _ =>
    rw [begin]
    split
    · trivial
    · trivial

theorem begin_sound {state : State} (sound : Sound state) (request : Request) :
    Sound { state with calls := state.calls ++ [begin state.registry request] } where
  grounded := sound.grounded
  faithful {ticket stage} present := by
    rcases (append_entry _ _ ticket stage).mp present with before | ⟨-, rfl⟩
    · exact sound.faithful before
    · exact begin_faithful sound.grounded request
  upheld := sound.upheld.begun _

theorem advance_sound {state : State} (sound : Sound state) {ticket : ℕ} {after : Estate}
    {stage next : Stage} (present : state.calls[ticket]? = some stage)
    (advanced : Advanced state.toEstate stage after next)
    (orderly : Stage.Orderly state ticket stage) :
    Sound { toEstate := after, calls := state.calls.set ticket next } := by
  have faithful := sound.faithful present
  obtain ⟨grounded, told, later⟩ := advanced.grounded sound.grounded faithful
    fun spec same free => by
      subst same
      exact orderly free
  refine ⟨grounded, fun {other} {found} there => ?_,
    advanced.upheld present sound.upheld sound.grounded faithful orderly⟩
  rcases (set_entry present other found).mp there with ⟨-, rfl⟩ | ⟨-, kept⟩
  · exact told
  · exact (sound.faithful kept).evolves later

theorem refuse_sound {state : State} (sound : Sound state) {ticket : ℕ} {error : MachineError}
    {stage next : Stage} (present : state.calls[ticket]? = some stage)
    (refused : Stage.refused error stage = some next)
    (orderly : Orderly state (.refuse ticket error)) :
    Sound { state with calls := state.calls.set ticket next } where
  grounded := sound.grounded
  faithful {other found} there := by
    rcases (set_entry present other found).mp there with ⟨-, rfl⟩ | ⟨-, kept⟩
    · cases stage <;> cases refused <;> trivial
    · exact sound.faithful kept
  upheld := by
    refine sound.upheld.idle present (fun name id there own doing => ?_) fun name id doing => ?_
    · cases stage with
      | reading spec made =>
        obtain ⟨rfl, rfl⟩ := doing
        exact (orderly spec made present ⟨there, own⟩).imp_right Or.inr
      | inserting status => cases refused
      | rebuilding statuses => cases refused
      | _ => exact doing.elim
    · cases stage with
      | forgetting name last => cases refused
      | rebuilding statuses => cases refused
      | _ => exact doing.elim

theorem elsewhere_sound {state : State} (sound : Sound state) {errand : MockInner.Errand}
    {now : ℕ} (orderly : Orderly state (.elsewhere errand now)) :
    Sound { state with backend := state.backend.run now errand } := by
  have carried : state.backend.Evolves (state.backend.run now errand) →
      (∀ {name : MachineName} {id}, (state.backend.run now errand).names[name]? = some id →
        id ∈ state.adopted → state.backend.names[name]? = some id) →
      Sound { state with backend := state.backend.run now errand } := fun later kept =>
    { grounded := sound.grounded.evolves later
      faithful := fun present => (sound.faithful present).evolves later
      upheld := sound.upheld.shifted (fun there own => ⟨kept there own, own⟩) rfl rfl }
  rcases MockInner.run_cases state.backend now errand with
    still | ⟨spec, made, rfl, call⟩ | ⟨held, gone, call⟩
  · exact carried still.evolves fun there _ => still.names _ ▸ there
  · have room := orderly spec rfl call.free
    refine carried (call.evolves room) fun {name id} there own => ?_
    rw [call.names] at there
    split at there
    · -- a machine someone else makes is none of this manager's
      have new := sound.grounded.adopted id own
      exact absurd (Option.some.inj there ▸ new) (call.fresh room)
    · exact there
  · refine carried call.evolves fun {name id} there _ => ?_
    rw [call.names] at there
    split at there
    · cases there
    · exact there

theorem sound_step {state after : State} {action : Action} (sound : Sound state)
    (orderly : Orderly state action) (taken : State.step state action = some after) :
    Sound after := by
  cases action with
  | begin request =>
    obtain rfl := Option.some.inj taken
    exact begin_sound sound request
  | advance ticket now =>
    obtain ⟨⟨estate, next⟩, moved, rfl⟩ := Option.map_eq_some_iff.mp taken
    obtain ⟨stage, present, advanced⟩ := Option.bind_eq_some_iff.mp moved
    exact advance_sound sound present (next_advanced advanced) (orderly stage present)
  | refuse ticket error =>
    obtain ⟨next, moved, rfl⟩ := Option.map_eq_some_iff.mp taken
    obtain ⟨stage, present, refused⟩ := Option.bind_eq_some_iff.mp moved
    exact refuse_sound sound present refused orderly
  | elsewhere errand now =>
    obtain rfl := Option.some.inj taken
    exact elsewhere_sound sound orderly

theorem sound_of_reachable {state : State} (reached : Reachable manager Orderly state) :
    Sound state := by
  have kept : Inductive manager Orderly Sound :=
    ⟨sound_start, fun sound orderly taken => sound_step sound orderly taken⟩
  exact kept.holds reached

/-! ## The registry and the backend -/

/-- The registry agrees with the backend: it has every machine of this manager under its current
id, so that the machine can be started, and none that this manager removed. -/
structure Tracks (state : State) : Prop where
  known : ∀ name id, Owned state.toEstate name id → state.registry.id name = some id
  cached : ∀ name, state.registry.id name = (state.registry.get name).map MachineStatus.id
  current : ∀ name id, state.registry.id name = some id → id ∉ state.forgotten
  manageable : ∀ name id, Owned state.toEstate name id →
    begin state.registry (.start name) = .starting id

/-- In an orderly run the registry agrees with the backend whenever no call is in flight. -/
theorem registry_tracks_backend {state : State} (reached : Reachable manager Orderly state)
    (quiet : state.Quiet) : Tracks state := by
  have sound := sound_of_reachable reached
  have rest : ∀ (ticket : ℕ) (stage : Stage), state.calls[ticket]? = some stage →
      (∀ name id, ¬ Stage.Brings stage name id) ∧ ∀ name id, ¬ Stage.Clears stage name id :=
    fun ticket stage present => by
      have done := List.all_eq_true.mp quiet stage (List.mem_of_getElem? present)
      cases stage with
      | answered result => exact ⟨fun _ _ doing => doing, fun _ _ doing => doing⟩
      | _ => cases done
  have settled := sound.upheld.settled rest
  have known : ∀ name id, Owned state.toEstate name id → state.registry.id name = some id :=
    fun name id owned => (settled name id).1 owned.1 owned.2
  refine ⟨known, sound.grounded.paired, fun name id held => (settled name id).2 held,
    fun name id owned => ?_⟩
  simp only [begin, resolve, known name id owned]

/-- The specification of the runs below. -/
def adeskSpec : MachineSpec := ⟨⟨"adesk"⟩, "image", .none⟩

/-- A `create` after some of its steps. -/
def createdAfter (steps : ℕ) : Option State :=
  replay manager anyStep {} (.begin (.create adeskSpec) :: List.replicate steps (.advance 0 0))

def createdState : State := (createdAfter 3).get (by decide)

theorem registry_tracks_backend_created :
    Tracks createdState ∧ createdState.registry.id ⟨"adesk"⟩ = some (mintedId 1) := by
  have asked : Reachable manager Orderly ((createdAfter 0).get (by decide)) :=
    .next .start (show Orderly {} (.begin (.create adeskSpec)) from trivial) rfl
  have made : Reachable manager Orderly ((createdAfter 1).get (by decide)) :=
    .next asked (orderly_advance (.creating adeskSpec) rfl fun _ => by decide)
      (show manager.step _ (.advance 0 0) = _ from rfl)
  have read : Reachable manager Orderly ((createdAfter 2).get (by decide)) :=
    .next made (orderly_advance (.reading adeskSpec (mintedId 1)) rfl trivial)
      (show manager.step _ (.advance 0 0) = _ from rfl)
  have written : Reachable manager Orderly createdState := by
    refine .next read (orderly_advance (.inserting _) rfl ⟨fun id owned => Or.inl ?_, ?_⟩)
      (show manager.step _ (.advance 0 0) = _ from rfl)
    · exact List.mem_singleton.mp owned.2
    · intro lost
      cases lost
  exact ⟨registry_tracks_backend written (by decide), by decide⟩

/-- A `create` whose status call fails. -/
def unreadRun : List Action :=
  [.begin (.create adeskSpec), .advance 0 0, .refuse 0 (.runtime "status")]

/-- The machine exists, but the manager does not know it and will not make it again. -/
theorem created_machine_unmanageable :
    ¬ ∀ state : State, Reachable manager anyStep state → state.Quiet → Tracks state := by
  intro claim
  let final := finalState manager anyStep unreadRun (by decide)
  have tracks := claim final (final_state_reachable manager anyStep unreadRun (by decide))
    (by decide)
  have owned : Owned final.toEstate ⟨"adesk"⟩ (mintedId 1) := by
    constructor
    · decide
    · decide
  have known := tracks.known _ _ owned
  have unknown : final.registry.id ⟨"adesk"⟩ = none := by decide
  rw [unknown] at known
  cases known

end ADesk.Machines.Registered
