/- ADesk/Server/ReadOrder
   digest: In which order the input requests of one connection reach the compositor. -/

import ADesk.Server.InputQueue
import Mathlib.Data.List.Pairwise

set_option autoImplicit false

namespace ADesk.Server.ReadOrder

open ADesk.Compositor.Command
open ADesk.Compositor.Keys (Xkb)
open ADesk.Foundation.Execution
open ADesk.Foundation.FifoGate
open ADesk.Server.Input
open ADesk.Server.InputQueue

/-- The commands that requests of the connection issued, in order. -/
def issuedBy (connection : ℕ) (log : List Served) : List Served :=
  log.filter fun served => served.connection = connection

theorem issued_by_append (connection other index : ℕ) (log : List Served)
    (issued : List ServedCommand) :
    issuedBy connection (log ++ issued.map (Served.mk other index)) =
      issuedBy connection log ++
        if other = connection then issued.map (Served.mk other index) else [] := by
  rw [issuedBy, issuedBy, List.filter_append]
  congr 1
  split
  · next same =>
    refine List.filter_eq_self.mpr fun served member => ?_
    obtain ⟨command, _, rfl⟩ := List.mem_map.mp member
    exact decide_eq_true same
  · next differs =>
    refine List.filter_eq_nil_iff.mpr fun served member => ?_
    obtain ⟨command, _, rfl⟩ := List.mem_map.mp member
    simpa using differs

/-- The requests that have issued commands, then the holder and the waiters of the gate. -/
def turns (s : InputQueue.State) (connection : ℕ) : List ℕ :=
  (issuedBy connection s.log).map Served.request ++ (s.connections connection).gate.queue

/-- No request has its turn before one that was read earlier. -/
structure InOrder (s : InputQueue.State) (connection : ℕ) : Prop where
  sorted : (turns s connection).Pairwise (· ≤ ·)
  above : ∀ index, ((s.connections connection).tasks index).polled = false →
    ∀ turn ∈ turns s connection, turn < index

/-- A task is polled for the first time after those of all requests read before it on its
connection. -/
def PollsInOrder (s : InputQueue.State) : Label → Prop
  | .poll connection index =>
    ∀ earlier < index, ((s.connections connection).tasks earlier).polled = true
  | _ => True

instance (s : InputQueue.State) : ∀ label, Decidable (PollsInOrder s label)
  | .poll .. => inferInstanceAs (Decidable (∀ earlier < _, _))
  | .accept | .read .. | .advance .. | .finish .. | .cancel .. => inferInstanceAs (Decidable True)

theorem turns_other {s t : InputQueue.State} {moved connection index : ℕ} {changed : Connection}
    {issued : List ServedCommand} (differs : connection ≠ moved)
    (connections : t.connections = Function.update s.connections moved changed)
    (log : t.log = s.log ++ issued.map (Served.mk moved index)) :
    t.connections connection = s.connections connection ∧
      turns t connection = turns s connection := by
  have same : t.connections connection = s.connections connection := by
    rw [connections, Function.update_of_ne differs]
  refine ⟨same, ?_⟩
  rw [turns, turns, same, log, issued_by_append, if_neg (Ne.symm differs), List.append_nil]

theorem turns_moved {s t : InputQueue.State} {moved index : ℕ} {changed : Connection}
    {issued : List ServedCommand}
    (connections : t.connections = Function.update s.connections moved changed)
    (log : t.log = s.log ++ issued.map (Served.mk moved index)) :
    turns t moved = (issuedBy moved s.log).map Served.request ++
      (issued.map (fun _ => index) ++ changed.gate.queue) := by
  have same : t.connections moved = changed := by
    rw [connections, Function.update_self]
  rw [turns, same, log, issued_by_append, if_pos rfl, List.map_append, List.map_map,
    List.append_assoc]
  rfl

/-- A task that is not polled after a step was not polled before it, and only reading a request
or polling it moves a task that is not polled. -/
theorem unpolled_before {xkb : Xkb} {s t : InputQueue.State} {label : Label}
    {moved index other : ℕ} {changed : Connection} {issued : List ServedCommand} (fresh : Fresh s)
    (move : Move xkb s moved (s.connections moved) label changed index issued)
    (connections : t.connections = Function.update s.connections moved changed)
    (unpolled : ((t.connections moved).tasks other).polled = false) :
    ((s.connections moved).tasks other).polled = false := by
  by_cases same : other = index
  · subst same
    rw [connections, Function.update_self] at unpolled
    cases move with
    | read =>
      rw [fresh moved _ (Nat.le_refl _)]
      rfl
    | entered | refused | advanced | left =>
      simp [TaskPhase.polled] at unpolled
  · rwa [move_others move connections fun equal => same (Prod.ext_iff.mp equal).2] at unpolled

/-- Turns that are among the old ones, in the old order, keep the order of reading. -/
theorem InOrder.shortened {s t : InputQueue.State} {connection : ℕ} (order : InOrder s connection)
    (fewer : (turns t connection).Sublist (turns s connection))
    (later : ∀ index, ((t.connections connection).tasks index).polled = false →
      ((s.connections connection).tasks index).polled = false) : InOrder t connection where
  sorted := order.sorted.sublist fewer
  above index unpolled turn member :=
    order.above index (later index unpolled) turn (fewer.subset member)

theorem move_in_order {xkb : Xkb} {s t : InputQueue.State} {label : Label}
    {connection index : ℕ} {changed : Connection} {issued : List ServedCommand} (fresh : Fresh s)
    (order : InOrder s connection) (allowed : PollsInOrder s label)
    (move : Move xkb s connection (s.connections connection) label changed index issued)
    (connections : t.connections = Function.update s.connections connection changed)
    (log : t.log = s.log ++ issued.map (Served.mk connection index)) : InOrder t connection := by
  have now := turns_moved connections log
  have later : ∀ other, ((t.connections connection).tasks other).polled = false →
      ((s.connections connection).tasks other).polled = false :=
    fun _ => unpolled_before fresh move connections
  cases move with
  | read request => exact order.shortened (by rw [show turns t connection = _ from now]; rfl) later
  | refused => exact order.shortened (by rw [show turns t connection = _ from now]; rfl) later
  | left =>
    refine order.shortened ?_ later
    rw [now]
    exact List.Sublist.append_left (Gate.leave_sublist _ index) _
  | entered _ request task spawned ok =>
    have waiting : turns t connection = turns s connection ++ [index] := by
      rw [now]
      simp [Gate.enter, turns]
    have unpolled : ((s.connections connection).tasks index).polled = false := by
      rw [spawned]
      rfl
    refine ⟨?_, ?_⟩
    · rw [waiting, List.pairwise_append]
      refine ⟨order.sorted, List.pairwise_singleton _ _, ?_⟩
      intro turn member last new
      rw [List.mem_singleton.mp new]
      exact Nat.le_of_lt (order.above index unpolled turn member)
    · intro other polled turn member
      have before := later other polled
      rw [waiting, List.mem_append, List.mem_singleton] at member
      rcases member with old | rfl
      · exact order.above other before turn old
      · -- a request read before the polled one has been polled itself
        have notEarlier : ¬ other < turn := by
          intro earlier
          rw [allowed other earlier] at before
          cases before
        have differs : other ≠ turn := by
          rintro rfl
          rw [connections, Function.update_self, set_task_self] at polled
          cases polled
        omega
  | advanced _ begun pending next answer cursor issued rest holds running answered =>
    obtain ⟨waiting, queue⟩ := Gate.queue_of_holder holds
    have sorted := order.sorted
    rw [turns, queue] at sorted
    have queued : ((s.connections connection).setTask index
        (.queued (begun || issued.isSome) rest)).gate.queue = index :: waiting := queue
    rw [queued] at now
    have members : ∀ turn ∈ turns t connection, turn ∈ turns s connection := by
      intro turn member
      rw [now] at member
      rw [turns, queue]
      simp only [List.mem_append, List.mem_map] at member ⊢
      rcases member with old | ⟨_, _, rfl⟩ | waits
      · exact .inl old
      · exact .inr List.mem_cons_self
      · exact .inr waits
    refine ⟨?_, fun other unpolled turn member =>
      order.above other (later other unpolled) turn (members turn member)⟩
    rw [now]
    cases issued with
    | none => exact sorted
    | some command =>
      rw [List.pairwise_append] at sorted ⊢
      obtain ⟨early, late, across⟩ := sorted
      refine ⟨early, ?_, ?_⟩
      · rw [List.pairwise_cons] at late
        refine List.pairwise_cons.mpr ⟨?_, List.pairwise_cons.mpr late⟩
        intro turn member
        rcases List.mem_cons.mp member with rfl | waits
        · exact Nat.le_refl _
        · exact late.1 turn waits
      · intro first inside last member
        rcases List.mem_cons.mp member with rfl | rest
        · exact across first inside _ List.mem_cons_self
        · exact across first inside last rest

theorem in_order {xkb : Xkb} {s : InputQueue.State}
    (reached : Reachable (queueMachine xkb) PollsInOrder s) (connection : ℕ) :
    InOrder s connection := by
  refine invariant_relative (P := fun s => ∀ connection, InOrder s connection) fresh_of_reachable
    ?_ ?_ reached connection
  · intro connection
    refine ⟨List.Pairwise.nil, ?_⟩
    intro index _ turn member
    cases member
  · intro before after label fresh _ order allowed taken
    rcases step_cases taken with rfl | ⟨moved, changed, index, issued, move, _, connections, log⟩
    · exact fun connection => ⟨(order connection).sorted, (order connection).above⟩
    · intro connection
      by_cases same : connection = moved
      · subst same
        exact move_in_order fresh (order connection) allowed move connections log
      · obtain ⟨own, turns⟩ := turns_other same connections log
        refine ⟨turns ▸ (order connection).sorted, ?_⟩
        rw [own, turns]
        exact (order connection).above

/-- When the tasks of a connection are first polled in the order in which its requests were read,
their commands reach the compositor in that order, each request's commands in one block. -/
theorem commands_in_read_order {xkb : Xkb} {s : InputQueue.State}
    (reached : Reachable (queueMachine xkb) PollsInOrder s) (connection : ℕ) :
    ((issuedBy connection s.log).map Served.request).Pairwise (· ≤ ·) ∧
      Contiguous Served.request (issuedBy connection s.log) := by
  have sorted := (List.pairwise_append.mp (in_order reached connection).sorted).1
  exact ⟨sorted, contiguous_of_sorted sorted⟩

/-- The pointer moves of one request, from its turn at the gate to its answer. -/
def moveServed (index : ℕ) : List Label :=
  [.advance 0 index (.snapshot (some ⟨[⟨⟨1⟩, ⟨0, 0, 100, 100⟩⟩], some ⟨1⟩, some ⟨1⟩⟩)),
    .advance 0 index (.outcome (some (.ok ()))), .advance 0 index .passed, .finish 0 index]

/-- Two pointer moves are pipelined: both are read before a task is polled. -/
def movesRead : List Label :=
  [.accept, .read 0 (.pointerMove ⟨1⟩ (.pixels ⟨1, 1⟩)),
    .read 0 (.pointerMove ⟨1⟩ (.pixels ⟨2, 2⟩))]

def polledInOrder : InputQueue.State :=
  finalState (queueMachine Compositor.Keys.latinXkb) PollsInOrder
    (movesRead ++ [.poll 0 0, .poll 0 1] ++ moveServed 0 ++ moveServed 1) (by decide +kernel)

theorem commands_in_read_order_polled :
    (issuedBy 0 polledInOrder.log).length = 4 ∧
      ((issuedBy 0 polledInOrder.log).map Served.request).Pairwise (· ≤ ·) ∧
      Contiguous Served.request (issuedBy 0 polledInOrder.log) :=
  ⟨by decide +kernel, commands_in_read_order (final_state_reachable _ _ _ _) 0⟩

/-- The runtime polls the task of the second request first. -/
def polledInReverse : InputQueue.State :=
  finalState (queueMachine Compositor.Keys.latinXkb) anyStep
    (movesRead ++ [.poll 0 1, .poll 0 0] ++ moveServed 1 ++ moveServed 0) (by decide +kernel)

/-- The pointer ends where the first of the two requests moved it to. -/
theorem later_request_first :
    Reachable (queueMachine Compositor.Keys.latinXkb) anyStep polledInReverse ∧
      ¬ ((issuedBy 0 polledInReverse.log).map Served.request).Pairwise (· ≤ ·) := by
  refine ⟨final_state_reachable _ _ _ _, fun sorted => ?_⟩
  have requests : (issuedBy 0 polledInReverse.log).map Served.request = [1, 1, 0, 0] := by
    decide +kernel
  rw [requests] at sorted
  exact absurd sorted (by decide)

end ADesk.Server.ReadOrder
