/- ADesk/Registry/Correlate
   digest: The correlator of the server associates mapped windows with recent launches. -/

import Mathlib.Data.List.Infix
import ADesk.Core.Ids

set_option autoImplicit false

namespace ADesk.Registry.Correlate

open ADesk.Core.Ids (WindowId LaunchId AppId)

/-! ## Launches and windows -/

structure LaunchRecord where
  launchId : LaunchId
  appId : AppId
  pid : Option ℤ
  startedAtMs : ℕ
  deriving DecidableEq

/-- What the compositor knows about a toplevel when it maps. -/
structure WindowCandidate where
  windowId : WindowId
  pid : Option ℤ
  appId : Option AppId
  title : Option String
  deriving DecidableEq

inductive CorrelationEvidence
  | pid | startupWmClass | appIdOrTitleSubstring
  deriving DecidableEq

structure Correlation where
  windowId : WindowId
  launch : LaunchRecord
  evidence : CorrelationEvidence
  deriving DecidableEq

inductive CorrelationOutcome
  | correlated (correlation : Correlation)
  | uncorrelated
  deriving DecidableEq

def CorrelationOutcome.launch : CorrelationOutcome → Option LaunchRecord
  | .correlated correlation => some correlation.launch
  | .uncorrelated => none

/-- The fields of a desktop entry that correlation uses. -/
structure AppInfo where
  name : String
  startupWmClass : Option String
  deriving DecidableEq

/-- A launch awaiting a window. -/
structure PendingLaunch where
  record : LaunchRecord
  startupWmClass : Option String
  name : String
  deriving DecidableEq

/-! ## The evidence tiers -/

/-- What follows the last dot, or the whole text. -/
def lastSegment (text : List Char) : List Char := (text.reverse.takeWhile (· != '.')).reverse

/-- Both sides report the same pid. -/
def matchesPid (pending : PendingLaunch) (window : WindowCandidate) : Bool :=
  match pending.record.pid, window.pid with
  | some launchPid, some windowPid => launchPid == windowPid
  | _, _ => false

section Lowercase

-- `str::to_lowercase`, which knows the Unicode case mappings.
variable (toLowercase : List Char → List Char)

def matchesStartupWmClass (pending : PendingLaunch) (window : WindowCandidate) : Bool :=
  match pending.startupWmClass.filter (· ≠ ""), (window.appId.map AppId.val).filter (· ≠ "") with
  | some wmClass, some appId => toLowercase wmClass.toList == toLowercase appId.toList
  | _, _ => false

/-- The app id or title of the window contains the id, its last segment or the name. -/
def matchesAppIdOrTitle (pending : PendingLaunch) (window : WindowCandidate) : Bool :=
  let haystacks := ((window.appId.map AppId.val).toList ++ window.title.toList).map
    fun text => toLowercase text.toList
  let appId := pending.record.appId.val.toList
  ([appId, lastSegment appId, pending.name.toList].filter fun needle => !needle.isEmpty).any
    fun needle => haystacks.any fun haystack => decide (toLowercase needle <:+: haystack)

def matcherFor : CorrelationEvidence → PendingLaunch → WindowCandidate → Bool
  | .pid => matchesPid
  | .startupWmClass => matchesStartupWmClass toLowercase
  | .appIdOrTitleSubstring => matchesAppIdOrTitle toLowercase

/-- Evidence tiers in evaluation order; the first one with a match wins. -/
def tiers : List CorrelationEvidence := [.pid, .startupWmClass, .appIdOrTitleSubstring]

end Lowercase

/-! ## The correlator -/

def defaultCorrelationTimeoutMs : ℕ := 10000

structure Correlator where
  timeoutMs : ℕ := defaultCorrelationTimeoutMs
  pending : List PendingLaunch := []

/-- A window mapped exactly at the deadline still correlates. -/
def PendingLaunch.isExpired (pending : PendingLaunch) (nowMs timeoutMs : ℕ) : Bool :=
  decide (nowMs - pending.record.startedAtMs > timeoutMs)

/-- The order of `(started_at_ms, launch_id)`. -/
def PendingLaunch.notAfter (a b : PendingLaunch) : Bool :=
  decide (a.record.startedAtMs < b.record.startedAtMs) ||
    (a.record.startedAtMs == b.record.startedAtMs &&
      decide (a.record.launchId.val ≤ b.record.launchId.val))

theorem not_after_iff {a b : PendingLaunch} :
    a.notAfter b = true ↔ a.record.startedAtMs < b.record.startedAtMs ∨
      (a.record.startedAtMs = b.record.startedAtMs ∧
        a.record.launchId.val ≤ b.record.launchId.val) := by
  simp [PendingLaunch.notAfter]

/-- `max_by_key`: the later one of two equal elements stays. -/
def later (best : Option PendingLaunch) (launch : PendingLaunch) : Option PendingLaunch :=
  match best with
  | some kept => if kept.notAfter launch then some launch else some kept
  | none => some launch

/-- The most recently started launch of one tier. -/
def bestMatch (pending : List PendingLaunch) (matching : PendingLaunch → Bool) :
    Option PendingLaunch :=
  (pending.filter matching).foldl later none

namespace Correlator

def recordLaunch (correlator : Correlator) (record : LaunchRecord) (app : AppInfo) : Correlator :=
  { correlator with
    pending := correlator.pending ++
      [⟨record, app.startupWmClass.filter (· ≠ ""), app.name⟩] }

/-- Drops launches older than the timeout. -/
def pruneExpired (correlator : Correlator) (nowMs : ℕ) : Correlator :=
  { correlator with
    pending := correlator.pending.filter fun pending =>
      !pending.isExpired nowMs correlator.timeoutMs }

/-- Correlates a mapped window; the launch that matches stays pending. -/
def correlate (toLowercase : List Char → List Char) (correlator : Correlator) (nowMs : ℕ)
    (window : WindowCandidate) : Correlator × CorrelationOutcome :=
  let pruned := correlator.pruneExpired nowMs
  let found := tiers.findSome? fun evidence =>
    (bestMatch pruned.pending fun pending => matcherFor toLowercase evidence pending window).map
      fun matched => Correlation.mk window.windowId matched.record evidence
  (pruned, match found with
    | some correlation => .correlated correlation
    | none => .uncorrelated)

end Correlator

/-! ## The choice among matching launches -/

/-- Where launches are recorded in the order of their start, the last match wins. -/
theorem best_match_last {pending : List PendingLaunch}
    (sorted : pending.Pairwise fun a b => a.notAfter b = true) (matching : PendingLaunch → Bool) :
    bestMatch pending matching = (pending.filter matching).getLast? := by
  have fold : ∀ (launches : List PendingLaunch) (best : Option PendingLaunch),
      launches.Pairwise (fun a b => a.notAfter b = true) →
      (∀ kept ∈ best, ∀ launch ∈ launches, kept.notAfter launch = true) →
        launches.foldl later best = launches.getLast?.or best := by
    intro launches
    induction launches with
    | nil => exact fun best _ _ => rfl
    | cons launch launches ih =>
      intro best sorted before
      obtain ⟨first, rest⟩ := List.pairwise_cons.mp sorted
      have replaced : later best launch = some launch := by
        cases best with
        | none => rfl
        | some kept =>
          rw [later, before kept rfl launch List.mem_cons_self]
          rfl
      rw [List.foldl_cons, replaced, ih (some launch) rest, List.getLast?_cons]
      · cases launches.getLast? <;> rfl
      · rintro kept ⟨⟩ other member
        exact first other member
  rw [bestMatch, fold _ none (sorted.filter _) (by simp), Option.or_none]

end ADesk.Registry.Correlate
