/- ADesk/Observer/Actions
   digest: The registry of agent actions, whose ids are allocated from one and never reused. -/

import ADesk.Core.Event

set_option autoImplicit false

namespace ADesk.Observer.Actions

open ADesk.Core.Ids (WindowId ActionId)
open ADesk.Core.Event (Position)

inductive ActionKind
  | pointerMove | click | doubleClick | mouseDown | mouseUp | scroll | drag
  | keypress | keyDown | keyUp | typeText
  | activateWindow | closeWindow | invokeAccessibleAction
  deriving DecidableEq

/-- Runtime-native operations are not input and never stamp `lastInputAt`. -/
def ActionKind.isInput : ActionKind → Bool
  | .activateWindow | .closeWindow | .invokeAccessibleAction => false
  | _ => true

/-- One recorded action; `seq` is the observer watermark at record time. -/
structure ActionRecord where
  id : ActionId
  kind : ActionKind
  windowId : Option WindowId
  position : Option Position
  seq : ℕ
  tsMs : ℕ
  deriving DecidableEq

structure ActionRegistry where
  lastId : ℕ
  records : Std.ExtTreeMap ℕ ActionRecord

namespace ActionRegistry

def new : ActionRegistry := ⟨0, ∅⟩

/-- Records an action under a freshly allocated id. -/
def record (registry : ActionRegistry) (kind : ActionKind) (windowId : Option WindowId)
    (position : Option Position) (seq tsMs : ℕ) : ActionRegistry × ActionId :=
  let rawId := registry.lastId + 1
  let id : ActionId := ⟨rawId⟩
  (⟨rawId, registry.records.insert rawId ⟨id, kind, windowId, position, seq, tsMs⟩⟩, id)

def get (registry : ActionRegistry) (actionId : ActionId) : Option ActionRecord :=
  registry.records[actionId.val]?

/-- The `after_action` filter point of a recorded action. -/
def seqOf (registry : ActionRegistry) (actionId : ActionId) : Option ℕ :=
  (registry.get actionId).map ActionRecord.seq

end ActionRegistry

@[simp] theorem new_get (actionId : ActionId) : ActionRegistry.new.get actionId = none := by
  simp [ActionRegistry.new, ActionRegistry.get]

/-- Recording changes the lookup of the new id alone. -/
theorem record_get (registry : ActionRegistry) (kind : ActionKind) (windowId : Option WindowId)
    (position : Option Position) (seq tsMs : ℕ) (actionId : ActionId) :
    (registry.record kind windowId position seq tsMs).1.get actionId =
      if actionId = ⟨registry.lastId + 1⟩ then
        some ⟨actionId, kind, windowId, position, seq, tsMs⟩
      else registry.get actionId := by
  obtain ⟨id⟩ := actionId
  simp only [ActionRegistry.record, ActionRegistry.get, Std.ExtTreeMap.getElem?_insert,
    compare_eq_iff_eq, ActionId.mk.injEq]
  by_cases same : registry.lastId + 1 = id
  · subst same
    simp
  · rw [if_neg same, if_neg (Ne.symm same)]

end ADesk.Observer.Actions
