/- ADesk/Foundation/WatchChannel
   digest: A watch channel with seen versions, and why append-then-bump loses no wakeup. -/

import Mathlib.Data.Nat.Notation

set_option autoImplicit false

namespace ADesk.Foundation.WatchChannel

universe u

variable {α : Type u}

/-- The sending half: the current value and the number of sends so far. -/
structure Sender (α : Type u) where
  value : α
  version : ℕ

/-- A receiver remembers the version it last marked as seen. -/
structure Receiver where
  seen : ℕ
  deriving DecidableEq

def channel (value : α) : Sender α := ⟨value, 0⟩

def Sender.sendModify (sender : Sender α) (modify : α → α) : Sender α :=
  ⟨modify sender.value, sender.version + 1⟩

/-- A new receiver has seen the current version. -/
def Sender.subscribe (sender : Sender α) : Receiver := ⟨sender.version⟩

/-- Reads the value and leaves the receiver's seen version alone. -/
def Sender.borrow (sender : Sender α) : α := sender.value

/-- Marks the current version as seen; also what a completed `changed()` does. -/
def Sender.markSeen (sender : Sender α) : Receiver := ⟨sender.version⟩

/-- `changed()` completes at once exactly when a version is unseen. -/
def Receiver.Unseen (receiver : Receiver) (sender : Sender α) : Prop :=
  receiver.seen ≠ sender.version

instance (receiver : Receiver) (sender : Sender α) : Decidable (receiver.Unseen sender) :=
  inferInstanceAs (Decidable (_ ≠ _))

@[simp] theorem channel_version (value : α) : (channel value).version = 0 := rfl

@[simp] theorem send_modify_version (sender : Sender α) (modify : α → α) :
    (sender.sendModify modify).version = sender.version + 1 := rfl

@[simp] theorem subscribe_seen (sender : Sender α) : sender.subscribe.seen = sender.version := rfl

@[simp] theorem mark_seen_seen (sender : Sender α) : sender.markSeen.seen = sender.version := rfl

/-- The writer appends to a log and only then bumps the channel: `version` counts the bumps,
`unbumped` the appends whose bump is still to come. -/
structure Ledger (logged version unbumped : ℕ) : Prop where
  balance : version + unbumped = logged

/-- A waiter that marked `seen` no later than it examined `examined` log entries is ready as
soon as the log is longer, up to the bumps the writer still owes. -/
theorem Ledger.unseen_or_owed {logged unbumped examined : ℕ} {sender : Sender α}
    {receiver : Receiver} (ledger : Ledger logged sender.version unbumped)
    (order : receiver.seen ≤ examined) (behind : examined < logged) :
    receiver.Unseen sender ∨ 0 < unbumped := by
  have balance := ledger.balance
  unfold Receiver.Unseen
  omega

/-- Whatever the receiver has seen, the owed bump makes it unseen. -/
theorem unseen_after_bump {sender : Sender α} {receiver : Receiver} (modify : α → α)
    (order : receiver.seen ≤ sender.version) : receiver.Unseen (sender.sendModify modify) := by
  unfold Receiver.Unseen
  rw [send_modify_version]
  omega

end ADesk.Foundation.WatchChannel
