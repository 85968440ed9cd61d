/- ADesk/Core/Accessibility
   digest: The elements of an accessibility tree as agents see them, and their pre-order. -/

import ADesk.Core.Geometry
import ADesk.Core.Ids

set_option autoImplicit false

namespace ADesk.Core.Accessibility

open ADesk.Core.Geometry (Rect)
open ADesk.Core.Ids (AppId WindowId)

/-- The handle an agent names an element by. -/
structure AccessibleId where
  val : ℕ
  deriving DecidableEq, Repr

/-- The flags of an element; only those that are set are listed. -/
inductive AccessibleState
  | enabled | sensitive | showing | visible | focusable | focused | checkable | checked
  | selected | selectable | expandable | expanded | collapsed | editable | multiline | readOnly
  | pressed | active | busy | modal | defunct | invalid
  deriving DecidableEq, Repr

structure AccessibleNode where
  id : AccessibleId
  role : String
  name : String
  description : Option String
  value : Option String
  states : List AccessibleState
  bounds : Option Rect
  actions : List String
  children : List AccessibleNode

structure AccessibleTree where
  windowId : WindowId
  appId : Option AppId
  appName : Option String
  root : AccessibleNode
  nodeCount : ℕ
  truncated : Bool

/-- A search hit: the fields of a node without its description and children, and the names of
its ancestors from the root. -/
structure AccessibleMatch where
  id : AccessibleId
  role : String
  name : String
  value : Option String
  states : List AccessibleState
  bounds : Option Rect
  actions : List String
  path : List String

mutual

/-- The nodes of a tree in pre-order, each with its depth below `depth`. -/
def AccessibleNode.outline (depth : ℕ) : AccessibleNode → List (ℕ × AccessibleNode)
  | ⟨id, role, name, description, value, states, bounds, actions, children⟩ =>
    (depth, ⟨id, role, name, description, value, states, bounds, actions, children⟩) ::
      outlines (depth + 1) children

def outlines (depth : ℕ) : List AccessibleNode → List (ℕ × AccessibleNode)
  | [] => []
  | child :: rest => child.outline depth ++ outlines depth rest

end

/-- The ids of a tree in pre-order. -/
def AccessibleNode.ids (node : AccessibleNode) : List AccessibleId :=
  (node.outline 0).map (fun entry => entry.2.id)

end ADesk.Core.Accessibility
