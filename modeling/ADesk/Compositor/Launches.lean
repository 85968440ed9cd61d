/- ADesk/Compositor/Launches
   digest: The launch ledger of the compositor, and what of it a mapped window can see. -/

import ADesk.Compositor.Keys
import ADesk.Core.Ids
import Mathlib.Algebra.GroupWithZero.Nat

set_option autoImplicit false

namespace ADesk.Compositor.Launches

open ADesk.Core.Ids (LaunchId AppId)
open ADesk.Compositor.Keys (eqIgnoreAsciiCase)

/-- Ten seconds, in the nanoseconds of the clock. -/
def launchCorrelationTimeout : ℕ := 10000000000
def maxPendingLaunches : ℕ := 32
def minTitleMatchLen : ℕ := 3

/-- A launch that is not yet correlated with a window. -/
structure PendingLaunch where
  launchId : LaunchId
  appId : AppId
  pid : Option ℤ
  notedAt : ℕ
  deriving DecidableEq

structure LaunchLedger where
  pending : List PendingLaunch := []

/-! ## The evidence tiers -/

/-- The last dot-separated segment of a desktop-file id. -/
def appIdTail (appId : AppId) : List Char :=
  (appId.val.toList.reverse.takeWhile (· != '.')).reverse

/-- App ids match when they are equal or share their tail. -/
def appIdsMatch (launched window : AppId) : Bool :=
  eqIgnoreAsciiCase launched.val.toList window.val.toList ||
    eqIgnoreAsciiCase (appIdTail launched) (appIdTail window)

def toAsciiLowercase (text : List Char) : List Char := text.map Char.toLower

/-- `str::len`, in bytes. -/
def byteLen (text : List Char) : ℕ := (text.map Char.utf8Size).sum

/-- The title contains the app id or its tail, when that is long enough. -/
def titleMatches (appId : AppId) (title : String) : Bool :=
  let lowered := toAsciiLowercase title.toList
  let full := toAsciiLowercase appId.val.toList
  let tail := toAsciiLowercase (appIdTail appId)
  (decide (byteLen full ≥ minTitleMatchLen) && decide (full <:+: lowered)) ||
    (decide (byteLen tail ≥ minTitleMatchLen) && decide (tail <:+: lowered))

/-! ## The ledger -/

/-- The launch is not older than the correlation window. -/
def PendingLaunch.fresh (now : ℕ) (launch : PendingLaunch) : Bool :=
  decide (now - launch.notedAt ≤ launchCorrelationTimeout)

/-- `rfind`: the last element that satisfies the predicate. -/
def rfind (matching : PendingLaunch → Bool) (pending : List PendingLaunch) :
    Option PendingLaunch :=
  pending.reverse.find? matching

namespace LaunchLedger

def expire (ledger : LaunchLedger) (now : ℕ) : LaunchLedger :=
  ⟨ledger.pending.filter fun launch => launch.fresh now⟩

/-- Expires stale entries, then drops the oldest one when there is no room. -/
def record (ledger : LaunchLedger) (launchId : LaunchId) (appId : AppId) (pid : Option ℤ)
    (now : ℕ) : LaunchLedger :=
  let pending := (ledger.expire now).pending
  let kept := if pending.length ≥ maxPendingLaunches then pending.drop 1 else pending
  ⟨kept ++ [⟨launchId, appId, pid, now⟩]⟩

/-- The launch that a freshly mapped window belongs to: exact pid, app id, title. -/
def correlate (ledger : LaunchLedger) (appId : Option AppId) (pid : Option ℤ)
    (title : Option String) (now : ℕ) : Option LaunchId :=
  let byPid := pid.bind fun pid =>
    rfind (fun launch => launch.fresh now && launch.pid == some pid) ledger.pending
  let byAppId := appId.bind fun appId =>
    rfind (fun launch => launch.fresh now && appIdsMatch launch.appId appId) ledger.pending
  let byTitle := title.bind fun title =>
    rfind (fun launch => launch.fresh now && titleMatches launch.appId title) ledger.pending
  ((byPid.or byAppId).or byTitle).map PendingLaunch.launchId

/-- Removes a correlated launch, so that it cannot match a second window. -/
def take (ledger : LaunchLedger) (launchId : LaunchId) : LaunchLedger :=
  ⟨ledger.pending.filter fun launch => launch.launchId ≠ launchId⟩

end LaunchLedger

theorem fresh_iff {now : ℕ} {launch : PendingLaunch} :
    launch.fresh now = true ↔ now - launch.notedAt ≤ launchCorrelationTimeout :=
  decide_eq_true_iff

/-- A launch that finds room is added to what is fresh. -/
theorem record_pending (ledger : LaunchLedger) (launchId : LaunchId) (appId : AppId)
    (pid : Option ℤ) {now : ℕ}
    (room : (ledger.pending.filter (PendingLaunch.fresh now)).length < maxPendingLaunches) :
    (ledger.record launchId appId pid now).pending =
      ledger.pending.filter (PendingLaunch.fresh now) ++ [⟨launchId, appId, pid, now⟩] := by
  have few : ¬ (ledger.expire now).pending.length ≥ maxPendingLaunches := Nat.not_le.mpr room
  unfold LaunchLedger.record
  simp only
  rw [if_neg few]
  rfl

/-- What is fresh decides the correlation. -/
theorem rfind_fresh (now : ℕ) (matching : PendingLaunch → Bool) (pending : List PendingLaunch) :
    rfind (fun launch => launch.fresh now && matching launch) pending =
      ((pending.filter (PendingLaunch.fresh now)).filter matching).getLast? := by
  rw [rfind, List.filter_filter, ← List.head?_reverse, ← List.filter_reverse,
    List.head?_filter]
  congr 1
  funext launch
  exact Bool.and_comm _ _

theorem rfind_mem {matching : PendingLaunch → Bool} {pending : List PendingLaunch}
    {launch : PendingLaunch} (found : rfind matching pending = some launch) : launch ∈ pending :=
  List.mem_reverse.mp (List.mem_of_find?_eq_some found)

/-- A window is attributed to a launch that is in the ledger. -/
theorem correlate_mem {ledger : LaunchLedger} {appId : Option AppId} {pid : Option ℤ}
    {title : Option String} {now : ℕ} {id : LaunchId}
    (found : ledger.correlate appId pid title now = some id) :
    ∃ launch ∈ ledger.pending, launch.launchId = id := by
  unfold LaunchLedger.correlate at found
  obtain ⟨launch, chosen, same⟩ := Option.map_eq_some_iff.mp found
  refine ⟨launch, ?_, same⟩
  rcases Option.or_eq_some_iff.mp chosen with earlier | ⟨-, byTitle⟩
  · rcases Option.or_eq_some_iff.mp earlier with byPid | ⟨-, byAppId⟩
    · obtain ⟨_, -, found⟩ := Option.bind_eq_some_iff.mp byPid
      exact rfind_mem found
    · obtain ⟨_, -, found⟩ := Option.bind_eq_some_iff.mp byAppId
      exact rfind_mem found
  · obtain ⟨_, -, found⟩ := Option.bind_eq_some_iff.mp byTitle
    exact rfind_mem found

end ADesk.Compositor.Launches
