/- ADesk/Agent/Context
   digest: The bounded context of the agent: what is kept of its actions, events and images, and
   what is shown of windows, applications and observations. -/

import ADesk.Agent.Costs
import ADesk.Core.Coalescing
import ADesk.Core.Image
import ADesk.Foundation.Runs
import ADesk.Wm.Policy

set_option autoImplicit false

namespace ADesk.Agent.Context

open ADesk.Agent.Costs (ImagePayload)
open ADesk.Agent.Execute (ActionKind)
open ADesk.Core.Event
open ADesk.Core.Geometry
open ADesk.Core.Ids
open ADesk.Core.Image (Size)
open ADesk.Foundation.Runs (push)
open ADesk.Wm.Policy (WindowState)

/-! ## The budget -/

/-- Hard caps of a context. -/
structure ContextBudget where
  maxActions : ℕ
  maxEvents : ℕ
  maxWindows : ℕ
  maxApps : ℕ
  maxChangedRegions : ℕ
  maxImages : ℕ
  maxDetailChars : ℕ
  maxAccessibilityChars : ℕ

instance : Inhabited ContextBudget := ⟨⟨8, 16, 8, 12, 4, 2, 160, 4000⟩⟩

/-- At most that many characters; the marker is appended where something is cut. -/
def truncate (text : String) (maxChars : ℕ) (marker : String) : String :=
  if text.length ≤ maxChars then text
  else String.ofList (text.toList.take maxChars) ++ marker

/-- Without a marker the bound is hard. -/
theorem truncate_length (text : String) (maxChars : ℕ) :
    (truncate text maxChars "").length ≤ maxChars := by
  unfold truncate
  split
  · assumption
  · rw [String.append_empty, String.length_ofList]
    exact List.length_take_le maxChars _

/-! ## Summaries of events -/

/-- One executed action. -/
structure ActionRecord where
  step : ℕ
  actionId : Option ActionId
  kind : ActionKind
  windowId : Option WindowId
  position : Option Position
  detail : String
  ok : Bool

structure EventSummary where
  kind : EventKind
  seq : ℕ
  tsMs : ℕ
  windowId : Option WindowId
  detail : String

/-- The detail of that many commits of one window. -/
def commitDetail (commitSeq commits damageRects : ℕ) : String :=
  let damage :=
    match damageRects with
    | 0 => "no damage"
    | 1 => "1 damage rect"
    | n => s!"{n} damage rects"
  if commits > 1 then s!"commit {commitSeq} ({commits} commits, {damage})"
  else s!"commit {commitSeq} ({damage})"

def reasonName : NotificationCloseReason → String
  | .dismissed => "Dismissed"
  | .action => "Action"
  | .expired => "Expired"
  | .closed => "Closed"

/-- A description without payloads: damage is a count of rectangles. -/
def describeEvent : RuntimeEvent → String
  | .windowCreated _ _ _ appId pid _ title =>
    "window created" ++ appId.elim "" (fun id => s!" app={id.val}") ++
      title.elim "" (fun title => s!" title={title}") ++ pid.elim "" fun pid => s!" pid={pid}"
  | .windowDestroyed .. => "window destroyed"
  | .windowActivated _ _ _ (some previous) => s!"window activated (previous {previous.val})"
  | .windowActivated _ _ _ none => "window activated"
  | .titleChanged _ _ _ (some title) => s!"title changed to {title}"
  | .titleChanged _ _ _ none => "title cleared"
  | .surfaceCommit _ _ _ commitSeq damage => commitDetail commitSeq 1 damage.rects.length
  | .focusChanged _ _ (some windowId) => s!"focus changed to {windowId.val}"
  | .focusChanged _ _ none => "focus cleared"
  | .popupAppeared _ _ _ popupId => s!"popup {popupId} appeared"
  | .popupDisappeared _ _ _ popupId => s!"popup {popupId} disappeared"
  | .appLaunched _ _ _ appId pid =>
    s!"app launched {appId.val}" ++ pid.elim "" fun pid => s!" pid={pid}"
  | .notification _ _ notification =>
    s!"notification {notification.id.val} posted" ++
      notification.source.elim "" (fun source => s!" source={source}") ++
      s!" title={notification.title}"
  | .notificationClosed _ _ notificationId reason =>
    s!"notification {notificationId.val} closed ({reasonName reason})"
  | .notificationAction _ _ notificationId actionKey =>
    s!"notification {notificationId.val} action {actionKey} invoked"

def EventSummary.fromEvent (event : RuntimeEvent) (maxDetailChars : ℕ) : EventSummary :=
  ⟨event.kind, event.seq, event.tsMs, event.windowId,
    truncate (describeEvent event) maxDetailChars ""⟩

/-! ## The builder -/

/-- The commits that the first of the kept summaries stands for. Its counters are a `u32` and a
`usize`, which wrap around. -/
structure CommitGroup where
  windowId : WindowId
  commits : ℕ
  damageRects : ℕ

def CommitGroup.grow (group : CommitGroup) (rects : ℕ) : CommitGroup :=
  { group with
    commits := (group.commits + 1) % 2 ^ 32
    damageRects := (group.damageRects + rects) % 2 ^ 64 }

structure ContextBuilder where
  budget : ContextBudget
  actions : List ActionRecord
  events : List EventSummary
  commitGroup : Option CommitGroup
  images : Costs.ContextBuilder

namespace ContextBuilder

def new (budget : ContextBudget) : ContextBuilder := ⟨budget, [], [], none, .new⟩

def recordAction (b : ContextBuilder) (record : ActionRecord) : ContextBuilder :=
  if b.budget.maxActions = 0 then b
  else { b with actions := push b.budget.maxActions record b.actions }

/-- A commit of the window that the first summary stands for is counted there; anything else
gets a summary of its own. -/
def recordEvent (b : ContextBuilder) (event : RuntimeEvent) : ContextBuilder :=
  let summary := EventSummary.fromEvent event b.budget.maxDetailChars
  match event with
  | .surfaceCommit _ _ windowId commitSeq damage =>
    match b.commitGroup.filter (fun group => group.windowId = windowId), b.events with
    | some group, head :: rest =>
      let grown := group.grow damage.rects.length
      { b with
        commitGroup := some grown
        events :=
          { head with
            seq := summary.seq
            tsMs := summary.tsMs
            detail :=
              truncate (commitDetail commitSeq grown.commits grown.damageRects)
                b.budget.maxDetailChars "" } :: rest }
    | _, events =>
      { b with
        commitGroup := some ⟨windowId, 1, damage.rects.length⟩
        events := push b.budget.maxEvents summary events }
  | _ => { b with commitGroup := none, events := push b.budget.maxEvents summary b.events }

def recordEvents (b : ContextBuilder) (events : List RuntimeEvent) : ContextBuilder :=
  if b.budget.maxEvents = 0 then { b with events := [], commitGroup := none }
  else events.foldl recordEvent b

def setImage (b : ContextBuilder) (image : Option ImagePayload) : ContextBuilder :=
  { b with images := b.images.setImage b.budget.maxImages image }

def clearImage (b : ContextBuilder) : ContextBuilder := { b with images := b.images.clearImage }

def reset (b : ContextBuilder) : ContextBuilder :=
  { b with actions := [], events := [], commitGroup := none, images := b.images.clearImage }

end ContextBuilder

/-! ## What is shown -/

structure WindowInfo where
  id : WindowId
  appId : Option AppId
  title : Option String
  geometry : Rect
  state : WindowState
  lastCommitSeq : ℕ
  popupCount : ℕ

structure WindowSummary where
  id : WindowId
  appId : Option AppId
  title : Option String
  active : Bool
  geometry : Rect
  popupCount : ℕ
  lastCommitSeq : ℕ

def WindowSummary.fromWindow (window : WindowInfo) : WindowSummary :=
  ⟨window.id, window.appId, window.title, window.state = .active, window.geometry,
    window.popupCount, window.lastCommitSeq⟩

/-- Active windows first, then the most recent commit, then the id. -/
def WindowSummary.listedBefore (a b : WindowSummary) : Bool :=
  ((compare (!a.active) (!b.active)).then <|
    (compare b.lastCommitSeq a.lastCommitSeq).then (compare a.id b.id)).isLE

structure AppInfo where
  id : AppId
  name : String
  categories : List String
  terminal : Bool

structure AppSummary where
  id : AppId
  name : String
  categories : List String
  terminal : Bool

def AppSummary.fromApp (app : AppInfo) : AppSummary :=
  ⟨app.id, app.name, app.categories, app.terminal⟩

structure RuntimeInfo where
  protocolVersion : ℕ
  uptimeMs : ℕ
  renderer : String
  output : Size

structure RuntimeSummary where
  protocolVersion : ℕ
  renderer : String
  output : Size
  uptimeMs : ℕ

def RuntimeSummary.fromRuntime (info : RuntimeInfo) : RuntimeSummary :=
  ⟨info.protocolVersion, info.renderer, info.output, info.uptimeMs⟩

/-- The larger area first, then `(y, x, h, w)`. -/
def keptBefore (a b : Rect) : Bool :=
  ((compare b.area a.area).then (Core.Coalescing.order a b)).isLE

/-- At most `cap` rectangles; what is cut is folded into the bounds of the last one kept. -/
def trimRegions (regions : List Rect) (cap : ℕ) : List Rect :=
  let kept := regions.filter fun rect => !rect.isEmpty
  if kept.length ≤ cap then kept
  else if cap = 0 then []
  else
    let sorted := kept.insertionSort fun a b => keptBefore a b
    let dropped := sorted.drop cap
    let bounds := dropped.foldl Rect.union Rect.empty
    (sorted.take cap).modifyLast fun last => last.union bounds

structure TaskDescription where
  goal : String
  successCriteria : Option String

/-- What the loop supplies when a context is built. -/
structure ContextInput where
  task : TaskDescription
  step : ℕ
  maxSteps : ℕ
  runtime : Option RuntimeInfo
  windows : List WindowInfo
  activeWindow : Option WindowId
  apps : List AppInfo
  observation : Option Observation
  accessibility : Option String
  lastError : Option String

structure AgentContext extends Costs.AgentContext where
  task : String
  successCriteria : Option String
  step : ℕ
  maxSteps : ℕ
  runtime : Option RuntimeSummary
  windows : List WindowSummary
  activeWindow : Option WindowId
  apps : List AppSummary
  recentActions : List ActionRecord
  recentEvents : List EventSummary
  observation : Option Observation
  accessibility : Option String
  lastError : Option String

namespace ContextBuilder

def trimObservation (b : ContextBuilder) (observation : Observation) : Observation :=
  { observation with
    changedRegions := trimRegions observation.changedRegions b.budget.maxChangedRegions }

def build (b : ContextBuilder) (input : ContextInput) : AgentContext :=
  let windows := (input.windows.map WindowSummary.fromWindow).map fun window =>
    -- The active window that was listed counts, also where the state of the window lags behind.
    { window with active := window.active || decide (input.activeWindow = some window.id) }
  { toAgentContext := b.images.build
    task := input.task.goal
    successCriteria := input.task.successCriteria
    step := input.step
    maxSteps := input.maxSteps
    runtime := input.runtime.map RuntimeSummary.fromRuntime
    windows := (windows.insertionSort fun a b => a.listedBefore b).take b.budget.maxWindows
    activeWindow := input.activeWindow
    apps := (input.apps.map AppSummary.fromApp).take b.budget.maxApps
    recentActions := b.actions
    recentEvents := b.events
    observation := input.observation.map b.trimObservation
    accessibility :=
      input.accessibility.map fun text => truncate text b.budget.maxAccessibilityChars ""
    lastError := input.lastError }

end ContextBuilder

/-! ## Runs of the builder -/

inductive Operation
  | recordAction (record : ActionRecord)
  | recordEvents (events : List RuntimeEvent)
  | setImage (image : Option ImagePayload)
  | clearImage
  | reset

def ContextBuilder.apply (b : ContextBuilder) : Operation → ContextBuilder
  | .recordAction record => b.recordAction record
  | .recordEvents events => b.recordEvents events
  | .setImage image => b.setImage image
  | .clearImage => b.clearImage
  | .reset => b.reset

def builderAfter (budget : ContextBudget) (operations : List Operation) : ContextBuilder :=
  operations.foldl ContextBuilder.apply (.new budget)

end ADesk.Agent.Context
