/- ADesk/Foundation/Broadcast
   digest: A broadcast channel whose slow receiver skips to the oldest retained value. -/

import Mathlib.Data.Nat.Notation

set_option autoImplicit false

namespace ADesk.Foundation.Broadcast

universe u

variable {α : Type u}

/-- Every value sent so far, of which the newest `slots` are retained. -/
structure Channel (α : Type u) where
  slots : ℕ
  sent : List α

/-- The position of the next value a subscriber reads. -/
structure Cursor where
  next : ℕ
  deriving DecidableEq

inductive Received (α : Type u)
  | lagged (missed : ℕ)
  | value (value : α)
  | empty

namespace Channel

def new (slots : ℕ) : Channel α := ⟨slots, []⟩

def send (channel : Channel α) (value : α) : Channel α :=
  { channel with sent := channel.sent ++ [value] }

/-- Position of the oldest value still retained. -/
def oldest (channel : Channel α) : ℕ := channel.sent.length - channel.slots

def subscribe (channel : Channel α) : Cursor := ⟨channel.sent.length⟩

/-- A receiver behind the oldest retained value learns how many it missed and continues there. -/
def recv (channel : Channel α) (cursor : Cursor) : Received α × Cursor :=
  if cursor.next < channel.oldest then
    (.lagged (channel.oldest - cursor.next), ⟨channel.oldest⟩)
  else
    match channel.sent[cursor.next]? with
    | some value => (.value value, ⟨cursor.next + 1⟩)
    | none => (.empty, cursor)

end Channel

/-- A received value is the one at the cursor, which then moves past it. -/
theorem recv_value {channel : Channel α} {cursor after : Cursor} {value : α}
    (received : channel.recv cursor = (.value value, after)) :
    channel.sent[cursor.next]? = some value ∧ after.next = cursor.next + 1 := by
  unfold Channel.recv at received
  split at received
  · cases received
  · split at received
    · next found =>
      cases received
      exact ⟨found, rfl⟩
    · cases received

/-- A lagging cursor moves forward, to a position the channel has reached. -/
theorem recv_lagged {channel : Channel α} {cursor after : Cursor} {missed : ℕ}
    (received : channel.recv cursor = (.lagged missed, after)) :
    cursor.next < after.next ∧ after.next ≤ channel.sent.length := by
  unfold Channel.recv at received
  split at received
  · next behind =>
    cases received
    exact ⟨behind, Nat.sub_le _ _⟩
  · split at received <;> cases received

/-- A receiver that has at most the newest value left to read does not lag. -/
theorem not_lagged {channel : Channel α} {cursor after : Cursor} {missed : ℕ}
    (slots : 0 < channel.slots) (few : (channel.sent.drop cursor.next).length ≤ 1) :
    channel.recv cursor ≠ (.lagged missed, after) := by
  intro received
  unfold Channel.recv at received
  split at received
  · next behind =>
    rw [Channel.oldest] at behind
    rw [List.length_drop] at few
    omega
  · split at received <;> cases received

/-- A received value is unread. -/
theorem recv_value_mem {channel : Channel α} {cursor after : Cursor} {value : α}
    (received : channel.recv cursor = (.value value, after)) :
    value ∈ channel.sent.drop cursor.next := by
  have found := (recv_value received).1
  rw [← Nat.add_zero cursor.next, ← List.getElem?_drop] at found
  exact List.mem_of_getElem? found

/-- A receiver finds nothing exactly when it has received everything. -/
theorem recv_empty_iff (channel : Channel α) (cursor : Cursor) :
    (channel.recv cursor).1 = .empty ↔ channel.sent.length ≤ cursor.next := by
  unfold Channel.recv
  by_cases behind : cursor.next < channel.oldest
  · rw [if_pos behind]
    have oldest : channel.oldest ≤ channel.sent.length := Nat.sub_le _ _
    exact ⟨nofun, fun through =>
      absurd (Nat.lt_of_lt_of_le behind oldest) (Nat.not_lt_of_le through)⟩
  · rw [if_neg behind]
    cases found : channel.sent[cursor.next]? with
    | some value =>
      obtain ⟨bound, _⟩ := List.getElem?_eq_some_iff.mp found
      exact ⟨nofun, fun through => absurd bound (Nat.not_lt_of_le through)⟩
    | none => exact ⟨fun _ => List.getElem?_eq_none_iff.mp found, fun _ => rfl⟩

end ADesk.Foundation.Broadcast
