/- ADesk/Server/Subscriptions
   digest: Event subscriptions and inspector streams: one registry, two payloads, fan-out. -/

import ADesk.Core.Event

set_option autoImplicit false

namespace ADesk.Server.Subscriptions

open ADesk.Core.Ids (WindowId)
open ADesk.Core.Event (RuntimeEvent)

abbrev SubscriptionId := ℕ

/-- Connection ids count up from 1. -/
abbrev SessionId := ℕ

/-- The outbound queue of a connection, named by the connection that drains it. -/
abbrev EventSink := SessionId

/-- The kinds of the wire: the runtime's own, and those only the protocol knows. -/
inductive EventKind
  | windowCreated | windowDestroyed | windowActivated | titleChanged | surfaceCommit
  | surfaceDamage | focusChanged | popupAppeared | popupDisappeared | quiet | appLaunched
  | notification | notificationClosed | notificationAction | inspectFrame
  deriving DecidableEq

namespace EventKind

def isSubscribable (kind : EventKind) : Bool := kind ≠ .inspectFrame

/-- `surfaceDamage` counts the commits with damage only, `surfaceCommit` counts all of them. -/
def matchesEvent (kind : EventKind) : RuntimeEvent → Bool
  | .surfaceCommit _ _ _ _ damage =>
    match kind with
    | .surfaceCommit => true
    | .surfaceDamage => !damage.isEmpty
    | _ => false
  | .windowCreated .. => kind = .windowCreated
  | .windowDestroyed .. => kind = .windowDestroyed
  | .windowActivated .. => kind = .windowActivated
  | .titleChanged .. => kind = .titleChanged
  | .focusChanged .. => kind = .focusChanged
  | .popupAppeared .. => kind = .popupAppeared
  | .popupDisappeared .. => kind = .popupDisappeared
  | .appLaunched .. => kind = .appLaunched
  | .notification .. => kind = .notification
  | .notificationClosed .. => kind = .notificationClosed
  | .notificationAction .. => kind = .notificationAction

end EventKind

inductive OverlayKind
  | windowIds | appIds | focus | damage | surfaceBounds | cursor | actions
  deriving DecidableEq

structure Subscription where
  id : SubscriptionId
  connection : SessionId
  kinds : List EventKind
  windowId : Option WindowId
  sink : EventSink
  deriving DecidableEq

/-- No kinds is every kind; a window filter passes only the events of that window. -/
def Subscription.matchesEvent (subscription : Subscription) (event : RuntimeEvent) : Bool :=
  (subscription.kinds.isEmpty || subscription.kinds.any fun kind => kind.matchesEvent event) &&
    match subscription.windowId with
    | none => true
    | some windowId => event.windowId = some windowId

structure InspectSubscription where
  id : SubscriptionId
  connection : SessionId
  overlays : List OverlayKind
  minIntervalMs : ℕ
  sink : EventSink
  deriving DecidableEq

/-! ## The registry -/

/-- What the registry asks of its entries. -/
class RegistryEntry (T : Type) where
  entryId : T → SubscriptionId
  entryConnection : T → SessionId
  entrySink : T → EventSink

export RegistryEntry (entryId entryConnection entrySink)

instance : RegistryEntry Subscription :=
  ⟨Subscription.id, Subscription.connection, Subscription.sink⟩

instance : RegistryEntry InspectSubscription :=
  ⟨InspectSubscription.id, InspectSubscription.connection, InspectSubscription.sink⟩

/-- Each registry counts its own ids: `allocated` were handed out and the next is one more. -/
structure Registry (T : Type) where
  entries : List T
  allocated : ℕ
  deriving DecidableEq

namespace Registry

variable {T : Type}

def new : Registry T := ⟨[], 0⟩

/-- First half of an insertion, before the list is locked. -/
def nextId (registry : Registry T) : Registry T × SubscriptionId :=
  ({ registry with allocated := registry.allocated + 1 }, registry.allocated + 1)

/-- Second half of an insertion, under the lock. -/
def push (registry : Registry T) (entry : T) : Registry T :=
  { registry with entries := registry.entries ++ [entry] }

@[simp] theorem next_id_entries (registry : Registry T) :
    registry.nextId.1.entries = registry.entries := rfl

@[simp] theorem push_entries (registry : Registry T) (entry : T) :
    (registry.push entry).entries = registry.entries ++ [entry] := rfl

@[simp] theorem push_allocated (registry : Registry T) (entry : T) :
    (registry.push entry).allocated = registry.allocated := rfl

variable [RegistryEntry T]

def unsubscribe (registry : Registry T) (id : SubscriptionId) : Registry T × Bool :=
  let kept := registry.entries.filter fun entry => entryId entry ≠ id
  ({ registry with entries := kept }, kept.length ≠ registry.entries.length)

def removeConnection (registry : Registry T) (connection : SessionId) :
    Registry T × List SubscriptionId :=
  ({ registry with
      entries := registry.entries.filter fun entry => entryConnection entry ≠ connection },
    (registry.entries.filter fun entry => entryConnection entry = connection).map entryId)

def contains (registry : Registry T) (id : SubscriptionId) : Bool :=
  registry.entries.any fun entry => entryId entry = id

def ids (registry : Registry T) : List SubscriptionId := registry.entries.map entryId

/-- The entries registered under an id. -/
def named (registry : Registry T) (id : SubscriptionId) : List T :=
  registry.entries.filter fun entry => entryId entry = id

theorem mem_unsubscribe {registry : Registry T} {id : SubscriptionId} {entry : T} :
    entry ∈ (registry.unsubscribe id).1.entries ↔ entry ∈ registry.entries ∧ entryId entry ≠ id := by
  unfold unsubscribe
  rw [List.mem_filter, decide_eq_true_iff]

theorem mem_remove_connection {registry : Registry T} {connection : SessionId} {entry : T} :
    entry ∈ (registry.removeConnection connection).1.entries ↔
      entry ∈ registry.entries ∧ entryConnection entry ≠ connection := by
  unfold removeConnection
  rw [List.mem_filter, decide_eq_true_iff]

theorem mem_named {registry : Registry T} {id : SubscriptionId} {entry : T} :
    entry ∈ registry.named id ↔ entry ∈ registry.entries ∧ entryId entry = id := by
  unfold named
  rw [List.mem_filter, decide_eq_true_iff]

theorem contains_iff {registry : Registry T} {id : SubscriptionId} :
    registry.contains id = true ↔ ∃ entry ∈ registry.entries, entryId entry = id := by
  unfold contains
  rw [List.any_eq_true]
  simp only [decide_eq_true_eq]

/-- What an unsubscription removes is what the id names. -/
theorem unsubscribe_length (registry : Registry T) (id : SubscriptionId) :
    (registry.unsubscribe id).1.entries.length + (registry.named id).length =
      registry.entries.length := by
  unfold unsubscribe named
  have parts := List.length_eq_length_filter_add (l := registry.entries)
    (fun entry => decide (entryId entry = id))
  simp only [decide_not]
  omega

end Registry

end ADesk.Server.Subscriptions
