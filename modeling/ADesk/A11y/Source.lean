/- ADesk/A11y/Source
   digest: The accessibility backend seam: what a backend reports of a window and what it answers. -/

import ADesk.Core.Accessibility

set_option autoImplicit false

namespace ADesk.A11y.Source

open ADesk.Core.Accessibility
open ADesk.Core.Geometry (Rect)
open ADesk.Core.Ids (AppId WindowId)

structure WindowTarget where
  windowId : WindowId
  title : Option String
  appId : Option AppId
  pid : Option ℤ

/-- Bounds applied to a backend tree walk. -/
structure SourceOptions where
  maxDepth : ℕ
  maxNodes : ℕ
  deriving DecidableEq

/-- Backend-private address of one accessible element, opaque to callers. -/
structure ElementHandle where
  val : String
  deriving DecidableEq, Repr

/-- One node as produced by a backend, before runtime ids are assigned. -/
structure SourceNode where
  role : String
  name : String
  description : Option String
  value : Option String
  states : List AccessibleState
  bounds : Option Rect
  actions : List String
  handle : ElementHandle
  children : List SourceNode

mutual

/-- The handles of a subtree in pre-order. -/
def SourceNode.handles : SourceNode → List ElementHandle
  | ⟨_, _, _, _, _, _, _, handle, children⟩ => handle :: childHandles children

def childHandles : List SourceNode → List ElementHandle
  | [] => []
  | child :: rest => child.handles ++ childHandles rest

end

structure SourceSnapshot where
  appName : Option String
  root : SourceNode
  truncated : Bool

inductive InvokeOutcome
  | invoked (name : String)
  | noSuchAction
  | gone
  deriving DecidableEq, Repr

inductive A11yError
  | unavailable (message : String)
  | notCorrelated (windowId : WindowId)
  | unknownNode (id : AccessibleId)
  | invalidRequest (message : String)
  | backend (message : String)
  deriving DecidableEq, Repr

/-- What a backend future came to: an answer, or nothing within the time bound. -/
inductive Answer (α : Type)
  | elapsed
  | answered (result : Except A11yError α)

/-- A backend, as it answers at one moment. -/
structure AccessibilitySource where
  name : String
  isAvailable : Bool
  snapshot : WindowTarget → SourceOptions → Answer SourceSnapshot
  invoke : ElementHandle → Option String → Answer InvokeOutcome

end ADesk.A11y.Source
