/- ADesk/Foundation/NotifyOne
   digest: A notification that wakes the oldest waiter, or is stored as a single permit. -/

import Mathlib.Data.List.Basic

set_option autoImplicit false

namespace ADesk.Foundation.NotifyOne

open scoped List

universe u

variable {τ : Type u}

/-- The waiters in the order they registered, and those woken that have not run yet. A permit is
stored only while nobody waits. -/
structure Signal (τ : Type u) where
  permit : Bool
  waiting : List τ
  woken : List τ
  alone : permit = true → waiting = []

namespace Signal

def new : Signal τ := ⟨false, [], [], fun _ => rfl⟩

/-- `notify_one`. -/
def notify (signal : Signal τ) : Signal τ :=
  match signal.waiting with
  | [] => ⟨true, [], signal.woken, fun _ => rfl⟩
  | next :: rest => ⟨false, rest, signal.woken ++ [next], fun stored => nomatch stored⟩

/-- The first poll of `notified`: takes the permit, or registers the waiter. -/
def poll (signal : Signal τ) (waiter : τ) : Signal τ × Bool :=
  if signal.permit then (⟨false, signal.waiting, signal.woken, fun stored => nomatch stored⟩, true)
  else
    (⟨false, signal.waiting ++ [waiter], signal.woken, fun stored => nomatch stored⟩, false)

/-- What a notification does, by whether somebody waits. -/
theorem notify_cases (signal : Signal τ) :
    (signal.waiting = [] ∧ signal.notify.permit = true ∧ signal.notify.waiting = [] ∧
        signal.notify.woken = signal.woken) ∨
      ∃ next rest, signal.waiting = next :: rest ∧ signal.notify.permit = false ∧
        signal.notify.waiting = rest ∧ signal.notify.woken = signal.woken ++ [next] := by
  unfold notify
  cases signal.waiting with
  | nil => exact Or.inl ⟨rfl, rfl, rfl, rfl⟩
  | cons next rest => exact Or.inr ⟨next, rest, rfl, rfl, rfl, rfl⟩

theorem poll_taken {signal : Signal τ} (stored : signal.permit = true) (waiter : τ) :
    (signal.poll waiter).2 = true ∧ (signal.poll waiter).1.permit = false ∧
      (signal.poll waiter).1.waiting = signal.waiting ∧
      (signal.poll waiter).1.woken = signal.woken := by
  unfold poll
  rw [if_pos stored]
  exact ⟨rfl, rfl, rfl, rfl⟩

theorem poll_registered {signal : Signal τ} (absent : signal.permit = false) (waiter : τ) :
    (signal.poll waiter).2 = false ∧ (signal.poll waiter).1.permit = false ∧
      (signal.poll waiter).1.waiting = signal.waiting ++ [waiter] ∧
      (signal.poll waiter).1.woken = signal.woken := by
  unfold poll
  rw [if_neg (by rw [absent]; exact Bool.false_ne_true)]
  exact ⟨rfl, rfl, rfl, rfl⟩

variable [DecidableEq τ]

/-- A woken waiter runs. -/
def complete (signal : Signal τ) (waiter : τ) : Signal τ :=
  { signal with woken := signal.woken.erase waiter }

/-- A waiter gives up: one that was woken hands its wakeup on. -/
def cancel (signal : Signal τ) (waiter : τ) : Signal τ :=
  if waiter ∈ signal.woken then (signal.complete waiter).notify
  else
    ⟨signal.permit, signal.waiting.erase waiter, signal.woken,
      fun stored => by rw [signal.alone stored]; rfl⟩

/-! ## Who waits -/

/-- Everybody whose wait has not returned, woken or not. -/
def waiters (signal : Signal τ) : List τ := signal.waiting ++ signal.woken

omit [DecidableEq τ] in
theorem notify_waiters (signal : Signal τ) : signal.notify.waiters ~ signal.waiters := by
  unfold waiters
  rcases signal.notify_cases with ⟨nobody, _, waiting, woken⟩ | ⟨next, rest, queue, _, waiting, woken⟩
  · rw [waiting, woken, nobody]
  · rw [waiting, woken, queue, ← List.append_assoc]
    exact List.perm_append_comm.trans (List.Perm.refl _)

omit [DecidableEq τ] in
theorem poll_waiters {signal : Signal τ} (absent : signal.permit = false) (waiter : τ) :
    (signal.poll waiter).1.waiters ~ waiter :: signal.waiters := by
  obtain ⟨_, _, waiting, woken⟩ := poll_registered absent waiter
  unfold waiters
  rw [waiting, woken, List.append_assoc]
  exact List.perm_middle

theorem complete_waiters {signal : Signal τ} {waiter : τ} (member : waiter ∈ signal.woken) :
    (signal.complete waiter).waiters ~ signal.waiters.erase waiter := by
  have moved : signal.waiters.erase waiter ~ (signal.woken ++ signal.waiting).erase waiter :=
    List.perm_append_comm.erase waiter
  rw [List.erase_append_left _ member] at moved
  exact (List.perm_append_comm.trans moved.symm)

theorem cancel_waiters {signal : Signal τ} {waiter : τ} (member : waiter ∈ signal.waiters) :
    (signal.cancel waiter).waiters ~ signal.waiters.erase waiter := by
  unfold cancel
  split
  · next woken => exact (notify_waiters _).trans (complete_waiters woken)
  · next asleep =>
    have waits : waiter ∈ signal.waiting :=
      (List.mem_append.mp member).resolve_right asleep
    unfold waiters
    rw [List.erase_append_left _ waits]

end Signal

end ADesk.Foundation.NotifyOne
