/- ADesk/Compositor/Events
   digest: The event sink of the compositor, and the ledger that its events keep of the windows. -/

import ADesk.Core.Event
import Mathlib.Logic.Function.Basic

set_option autoImplicit false

namespace ADesk.Compositor.Events

open ADesk.Core.Geometry (Region)
open ADesk.Core.Ids (WindowId LaunchId AppId)
open ADesk.Core.Event (RuntimeEvent)

/-- An event the compositor is about to emit: all but the sequence number and the timestamp. -/
inductive Emission
  | windowCreated (windowId : WindowId) (appId : Option AppId) (pid : Option ℤ)
      (launchId : Option LaunchId) (title : Option String)
  | windowDestroyed (windowId : WindowId)
  | windowActivated (windowId : WindowId) (previous : Option WindowId)
  | titleChanged (windowId : WindowId) (title : Option String)
  | surfaceCommit (windowId : WindowId) (commitSeq : ℕ) (damage : Region)
  | focusChanged (windowId : Option WindowId)
  | popupAppeared (windowId : WindowId) (popupId : ℕ)
  | popupDisappeared (windowId : WindowId) (popupId : ℕ)
  deriving DecidableEq

def Emission.event (seq tsMs : ℕ) : Emission → RuntimeEvent
  | .windowCreated windowId appId pid launchId title =>
    .windowCreated seq tsMs windowId appId pid launchId title
  | .windowDestroyed windowId => .windowDestroyed seq tsMs windowId
  | .windowActivated windowId previous => .windowActivated seq tsMs windowId previous
  | .titleChanged windowId title => .titleChanged seq tsMs windowId title
  | .surfaceCommit windowId commitSeq damage =>
    .surfaceCommit seq tsMs windowId commitSeq damage
  | .focusChanged windowId => .focusChanged seq tsMs windowId
  | .popupAppeared windowId popupId => .popupAppeared seq tsMs windowId popupId
  | .popupDisappeared windowId popupId => .popupDisappeared seq tsMs windowId popupId

@[simp] theorem emission_seq (emission : Emission) (seq tsMs : ℕ) :
    (emission.event seq tsMs).seq = seq := by
  cases emission <;> rfl

@[simp] theorem emission_synthesized (emission : Emission) (seq tsMs : ℕ) :
    (emission.event seq tsMs).kind.synthesized = false := by
  cases emission <;> rfl

/-- The single allocation point of sequence numbers. -/
structure EventSink where
  lastSeq : ℕ
  deriving DecidableEq

namespace EventSink

def new : EventSink := ⟨0⟩

/-- Allocates the next number; a reservation does only this. -/
def nextSeq (sink : EventSink) : EventSink × ℕ := (⟨sink.lastSeq + 1⟩, sink.lastSeq + 1)

def watermark (sink : EventSink) : ℕ := sink.lastSeq

end EventSink

/-! ## The ledger -/

/-- What the emitted events say of the windows: the commit counter of each live window, and a
bound of the ids announced so far. -/
structure Ledger where
  commits : WindowId → Option ℕ
  nextId : ℕ

def Ledger.new : Ledger := ⟨fun _ => none, 1⟩

/-- The ledger after one event. Events the server synthesizes leave it alone. -/
def Ledger.apply (ledger : Ledger) : RuntimeEvent → Ledger
  | .windowCreated _ _ windowId .. =>
    ⟨Function.update ledger.commits windowId (some 0), windowId.val + 1⟩
  | .windowDestroyed _ _ windowId =>
    { ledger with commits := Function.update ledger.commits windowId none }
  | .surfaceCommit _ _ windowId commitSeq _ =>
    { ledger with commits := Function.update ledger.commits windowId (some commitSeq) }
  | _ => ledger

/-- The events that fit the ledger: new ids are new, other events name a live window, and
commits count on. -/
def Ledger.Admits (ledger : Ledger) : RuntimeEvent → Prop
  | .windowCreated _ _ windowId .. =>
    ledger.nextId ≤ windowId.val ∧ ledger.commits windowId = none
  | .surfaceCommit _ _ windowId commitSeq _ =>
    ∃ last, ledger.commits windowId = some last ∧ commitSeq = last + 1
  | .focusChanged _ _ windowId =>
    ∀ focused, windowId = some focused → (ledger.commits focused).isSome = true
  | .windowDestroyed _ _ windowId | .windowActivated _ _ windowId _
  | .titleChanged _ _ windowId _ | .popupAppeared _ _ windowId _
  | .popupDisappeared _ _ windowId _ => (ledger.commits windowId).isSome = true
  | .appLaunched .. | .notification .. | .notificationClosed .. | .notificationAction .. => True

/-- The ledger after a history. -/
def Ledger.run (ledger : Ledger) (history : List RuntimeEvent) : Ledger :=
  history.foldl Ledger.apply ledger

/-- Every event of the history fits the ledger of the events before it. -/
def Ledger.Accepts (ledger : Ledger) : List RuntimeEvent → Prop
  | [] => True
  | event :: rest => ledger.Admits event ∧ (ledger.apply event).Accepts rest

/-- The history as it would be emitted; the ledger reads neither numbers nor timestamps. -/
def drafted (emissions : List Emission) : List RuntimeEvent :=
  emissions.map fun emission => emission.event 0 0

theorem Ledger.run_append (ledger : Ledger) (first second : List RuntimeEvent) :
    ledger.run (first ++ second) = (ledger.run first).run second :=
  List.foldl_append ..

theorem Ledger.accepts_append {ledger : Ledger} {first second : List RuntimeEvent} :
    ledger.Accepts (first ++ second) ↔
      ledger.Accepts first ∧ (ledger.run first).Accepts second := by
  induction first generalizing ledger with
  | nil => exact ⟨fun accepted => ⟨trivial, accepted⟩, fun accepted => accepted.2⟩
  | cons event rest ih =>
    change ledger.Admits event ∧ (ledger.apply event).Accepts (rest ++ second) ↔
      (ledger.Admits event ∧ (ledger.apply event).Accepts rest) ∧
        ((ledger.apply event).run rest).Accepts second
    rw [ih, and_assoc]

theorem apply_synthesized (ledger : Ledger) {event : RuntimeEvent}
    (synthesized : event.kind.synthesized = true) : ledger.apply event = ledger := by
  cases event <;> first | rfl | cases synthesized

theorem admits_synthesized (ledger : Ledger) {event : RuntimeEvent}
    (synthesized : event.kind.synthesized = true) : ledger.Admits event := by
  cases event <;> trivial

end ADesk.Compositor.Events
