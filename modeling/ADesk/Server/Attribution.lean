/- ADesk/Server/Attribution
   digest: The launches that the compositor and the server attribute mapped windows to, over runs
   of launches and windows. -/

import Mathlib.Data.List.Induction
import ADesk.Compositor.Launches
import ADesk.Registry.Correlate

set_option autoImplicit false

namespace ADesk.Server.Attribution

open ADesk.Core.Ids (LaunchId AppId)
open ADesk.Compositor.Launches (LaunchLedger appIdsMatch titleMatches maxPendingLaunches
  launchCorrelationTimeout rfind_fresh)
open ADesk.Registry.Correlate

/-! ## Runs of both correlators -/

/-- What both correlators hear of, at one time. -/
inductive Moment
  | launched (launch : LaunchRecord)
  | mapped (window : WindowCandidate) (nowMs : ℕ)

def Moment.time : Moment → ℕ
  | .launched launch => launch.startedAtMs
  | .mapped _ nowMs => nowMs

def nanos (ms : ℕ) : ℕ := ms * 1000000

/-- An entry without `StartupWMClass` or a display name beyond the id. -/
def plainApp (appId : AppId) : AppInfo := ⟨appId.val, none⟩

structure Both where
  ledger : LaunchLedger := {}
  correlator : Correlator := {}

section Run

variable (toLowercase : List Char → List Char)

/-- `map_toplevel`: a launch that gets the window is taken out of the ledger. -/
def mapToplevel (ledger : LaunchLedger) (window : WindowCandidate) (nowMs : ℕ) :
    LaunchLedger × Option LaunchId :=
  match ledger.correlate window.appId window.pid window.title (nanos nowMs) with
  | some launchId => (ledger.take launchId, some launchId)
  | none => (ledger, none)

def Both.step (both : Both) : Moment → Both
  | .launched launch =>
    ⟨both.ledger.record launch.launchId launch.appId launch.pid (nanos launch.startedAtMs),
      both.correlator.recordLaunch launch (plainApp launch.appId)⟩
  | .mapped window nowMs =>
    ⟨(mapToplevel both.ledger window nowMs).1,
      (both.correlator.correlate toLowercase nowMs window).1⟩

def after (moments : List Moment) : Both := moments.foldl (Both.step toLowercase) {}

/-- The launch that the compositor attributes the window to. -/
def compositorChoice (moments : List Moment) (window : WindowCandidate) (nowMs : ℕ) :
    Option LaunchId :=
  (mapToplevel (after toLowercase moments).ledger window nowMs).2

/-- The launch that the server attributes the window to. -/
def serverChoice (moments : List Moment) (window : WindowCandidate) (nowMs : ℕ) :
    Option LaunchId :=
  (((after toLowercase moments).correlator.correlate toLowercase nowMs window).2.launch).map
    LaunchRecord.launchId

end Run

/-! ## What a run has launched and attributed -/

def launches (moments : List Moment) : List LaunchRecord :=
  moments.filterMap fun
    | .launched launch => some launch
    | .mapped .. => none

/-- The launches that the compositor has attributed windows to. -/
def attributed (toLowercase : List Char → List Char) (both : Both) : List Moment → List LaunchId
  | [] => []
  | .launched launch :: rest =>
    attributed toLowercase (both.step toLowercase (.launched launch)) rest
  | .mapped window nowMs :: rest =>
    (mapToplevel both.ledger window nowMs).2.toList ++
      attributed toLowercase (both.step toLowercase (.mapped window nowMs)) rest

/-- The launch is not older than the correlation window. -/
def isFresh (nowMs : ℕ) (launch : LaunchRecord) : Bool :=
  decide (nowMs - launch.startedAtMs ≤ defaultCorrelationTimeoutMs)

/-- Times do not go back, launch ids ascend, and the ledger has room for each launch. -/
structure Orderly (moments : List Moment) : Prop where
  times : moments.Pairwise fun a b => a.time ≤ b.time
  ids : (launches moments).Pairwise fun a b => a.launchId.val < b.launchId.val
  room : ∀ earlier launch rest, moments = earlier ++ .launched launch :: rest →
    ((launches earlier).filter (isFresh launch.startedAtMs)).length < maxPendingLaunches

/-! ## The evidence of a window -/

section Evidence

variable (window : WindowCandidate) (launch : LaunchRecord)

def toPending (launch : LaunchRecord) : PendingLaunch := ⟨launch, none, launch.appId.val⟩

def samePid : Bool := matchesPid (toPending launch) window

/-- The last tier of the server. -/
def textMatch (toLowercase : List Char → List Char) : Bool :=
  matchesAppIdOrTitle toLowercase (toPending launch) window

/-- The tiers of the compositor after the pid. -/
def appIdMatch : Bool := window.appId.any (appIdsMatch launch.appId)

def titleMatch : Bool := window.title.any (titleMatches launch.appId)

/-- By app id where some launch matches that way, and else by title. -/
def nameMatch (remaining : List LaunchRecord) : Bool :=
  if remaining.any (appIdMatch window) then appIdMatch window launch else titleMatch window launch

end Evidence

/-- The launch that was recorded last. -/
def latest (matching : LaunchRecord → Bool) (launches : List LaunchRecord) :
    Option LaunchRecord :=
  (launches.filter matching).getLast?

/-! ## What both still know -/

def noted (launch : LaunchRecord) : Compositor.Launches.PendingLaunch :=
  ⟨launch.launchId, launch.appId, launch.pid, nanos launch.startedAtMs⟩

theorem is_fresh_iff {nowMs : ℕ} {launch : LaunchRecord} :
    isFresh nowMs launch = true ↔ nowMs - launch.startedAtMs ≤ defaultCorrelationTimeoutMs :=
  decide_eq_true_iff

theorem noted_fresh (nowMs : ℕ) (launch : LaunchRecord) :
    (noted launch).fresh (nanos nowMs) = isFresh nowMs launch := by
  rw [Bool.eq_iff_iff, Compositor.Launches.fresh_iff, is_fresh_iff]
  simp only [noted, nanos, launchCorrelationTimeout, defaultCorrelationTimeoutMs]
  omega

/-- The launch is still awaited by the correlator. -/
def awaited (nowMs : ℕ) (pending : PendingLaunch) : Bool :=
  !pending.isExpired nowMs defaultCorrelationTimeoutMs

theorem awaited_iff {nowMs : ℕ} {pending : PendingLaunch} :
    awaited nowMs pending = true ↔
      nowMs - pending.record.startedAtMs ≤ defaultCorrelationTimeoutMs := by
  unfold awaited PendingLaunch.isExpired
  rw [Bool.not_eq_true', decide_eq_false_iff_not, Nat.not_lt]

theorem awaited_fresh (nowMs : ℕ) (launch : LaunchRecord) :
    awaited nowMs (toPending launch) = isFresh nowMs launch := by
  rw [Bool.eq_iff_iff, awaited_iff, is_fresh_iff]
  rfl

/-- The launch is fresh, and no window has been attributed to it. -/
def isLeft (given : List LaunchId) (nowMs : ℕ) (launch : LaunchRecord) : Bool :=
  isFresh nowMs launch && decide (launch.launchId ∉ given)

/-- What both know after the moments, as far as later windows can see it. -/
structure Knows (moments : List Moment) (given : List LaunchId) (both : Both) : Prop where
  ledger : ∀ now, (∀ moment ∈ moments, moment.time ≤ now) →
    both.ledger.pending.filter (Compositor.Launches.PendingLaunch.fresh (nanos now)) =
      ((launches moments).filter (isLeft given now)).map noted
  correlator : ∀ now, (∀ moment ∈ moments, moment.time ≤ now) →
    both.correlator.pending.filter (awaited now) =
      ((launches moments).filter (isFresh now)).map toPending
  timeout : both.correlator.timeoutMs = defaultCorrelationTimeoutMs
  known : ∀ launch ∈ both.ledger.pending, launch.launchId ∈ (launches moments).map (·.launchId)
  given : ∀ id ∈ given, id ∈ (launches moments).map (·.launchId)

/-- Dropping what is no longer fresh loses nothing that is fresh later. -/
theorem fresh_later {start now : ℕ} (order : start ≤ now)
    (pending : List Compositor.Launches.PendingLaunch) :
    (pending.filter (Compositor.Launches.PendingLaunch.fresh (nanos start))).filter
        (Compositor.Launches.PendingLaunch.fresh (nanos now)) =
      pending.filter (Compositor.Launches.PendingLaunch.fresh (nanos now)) := by
  rw [List.filter_filter]
  refine List.filter_congr fun launch _ => ?_
  rw [Bool.and_eq_left_iff_imp]
  simp only [Compositor.Launches.fresh_iff, nanos]
  omega

theorem awaited_later {start now : ℕ} (order : start ≤ now) (pending : List PendingLaunch) :
    (pending.filter (awaited start)).filter (awaited now) = pending.filter (awaited now) := by
  rw [List.filter_filter]
  refine List.filter_congr fun launch _ => ?_
  rw [Bool.and_eq_left_iff_imp]
  simp only [awaited_iff]
  omega

theorem launches_append (moments rest : List Moment) :
    launches (moments ++ rest) = launches moments ++ launches rest := by
  simp [launches]

theorem launches_launched (moments : List Moment) (launch : LaunchRecord) :
    launches (moments ++ [.launched launch]) = launches moments ++ [launch] := by
  simp [launches]

theorem launches_mapped (moments : List Moment) (window : WindowCandidate) (nowMs : ℕ) :
    launches (moments ++ [.mapped window nowMs]) = launches moments := by
  simp [launches]

/-- The time of the last moment, and those of the earlier ones. -/
theorem times_append {moments : List Moment} {last : Moment} {now : ℕ}
    (all : ∀ moment ∈ moments ++ [last], moment.time ≤ now) :
    last.time ≤ now ∧ ∀ moment ∈ moments, moment.time ≤ now :=
  ⟨all last (List.mem_append_right _ List.mem_cons_self),
    fun moment member => all moment (List.mem_append_left _ member)⟩

/-- Taking a launch out of the ledger is giving it away. -/
theorem ledger_take {ledger : LaunchLedger} {launches : List LaunchRecord}
    {given : List LaunchId} {now : ℕ} {id : LaunchId}
    (known : ledger.pending.filter (Compositor.Launches.PendingLaunch.fresh (nanos now)) =
      (launches.filter (isLeft given now)).map noted) :
    (ledger.take id).pending.filter (Compositor.Launches.PendingLaunch.fresh (nanos now)) =
      (launches.filter (isLeft (given ++ [id]) now)).map noted := by
  have remaining : (ledger.take id).pending.filter
      (Compositor.Launches.PendingLaunch.fresh (nanos now)) =
        (ledger.pending.filter (Compositor.Launches.PendingLaunch.fresh (nanos now))).filter
          fun launch => launch.launchId ≠ id := by
    rw [LaunchLedger.take, List.filter_filter, List.filter_filter]
    exact List.filter_congr fun launch _ => Bool.and_comm _ _
  rw [remaining, known, List.filter_map, List.filter_filter]
  refine congrArg (List.map noted) (List.filter_congr fun launch _ => ?_)
  have other : ((fun launch => decide (launch.launchId ≠ id)) ∘ noted) launch =
      decide (launch.launchId ≠ id) := rfl
  rw [other, Bool.eq_iff_iff]
  simp only [isLeft, Bool.and_eq_true, decide_eq_true_eq, List.mem_append, List.mem_singleton,
    not_or, ne_eq]
  tauto

section Steps

variable {toLowercase : List Char → List Char} {moments : List Moment} {given : List LaunchId}
  {both : Both}

theorem knows_launched (knows : Knows moments given both) {launch : LaunchRecord}
    (times : ∀ moment ∈ moments, moment.time ≤ launch.startedAtMs)
    (ids : ∀ earlier ∈ launches moments, earlier.launchId.val < launch.launchId.val)
    (room : ((launches moments).filter (isFresh launch.startedAtMs)).length < maxPendingLaunches) :
    Knows (moments ++ [.launched launch]) given (both.step toLowercase (.launched launch)) := by
  have unattributed : launch.launchId ∉ given := by
    intro member
    obtain ⟨earlier, there, same⟩ := List.mem_map.mp (knows.given _ member)
    have before := ids earlier there
    rw [same] at before
    exact Nat.lt_irrefl _ before
  have few : (both.ledger.pending.filter
      (Compositor.Launches.PendingLaunch.fresh (nanos launch.startedAtMs))).length <
        maxPendingLaunches := by
    have fewer : ((launches moments).filter (isLeft given launch.startedAtMs)).length ≤
        ((launches moments).filter (isFresh launch.startedAtMs)).length := by
      refine (List.monotone_filter_right _ fun other left => ?_).length_le
      exact (Bool.and_eq_true_iff.mp left).1
    rw [knows.ledger launch.startedAtMs times, List.length_map]
    omega
  -- The ledger has room for the launch.
  have kept : (both.step toLowercase (.launched launch)).ledger.pending =
      both.ledger.pending.filter
          (Compositor.Launches.PendingLaunch.fresh (nanos launch.startedAtMs)) ++
        [noted launch] :=
    Compositor.Launches.record_pending both.ledger launch.launchId launch.appId launch.pid few
  have appended : (both.step toLowercase (.launched launch)).correlator.pending =
      both.correlator.pending ++ [toPending launch] := rfl
  refine ⟨?_, ?_, knows.timeout, ?_, ?_⟩
  · intro now all
    obtain ⟨last, before⟩ := times_append all
    have order : launch.startedAtMs ≤ now := last
    have last : [noted launch].filter (Compositor.Launches.PendingLaunch.fresh (nanos now)) =
        ([launch].filter (isLeft given now)).map noted := by
      rw [List.filter_singleton, List.filter_singleton, noted_fresh, isLeft,
        decide_eq_true unattributed, Bool.and_true]
      cases isFresh now launch <;> rfl
    rw [kept, List.filter_append, fresh_later order, knows.ledger now before, launches_launched,
      List.filter_append, List.map_append, last]
  · intro now all
    obtain ⟨-, before⟩ := times_append all
    have last : [toPending launch].filter (awaited now) =
        ([launch].filter (isFresh now)).map toPending := by
      rw [List.filter_singleton, List.filter_singleton, awaited_fresh]
      cases isFresh now launch <;> rfl
    rw [appended, List.filter_append, knows.correlator now before, launches_launched,
      List.filter_append, List.map_append, last]
  · intro other member
    rw [launches_launched, List.map_append]
    rw [kept] at member
    rcases List.mem_append.mp member with old | new
    · exact List.mem_append_left _ (knows.known other (List.mem_filter.mp old).1)
    · rw [List.mem_singleton.mp new]
      exact List.mem_append_right _ List.mem_cons_self
  · intro id member
    rw [launches_launched, List.map_append]
    exact List.mem_append_left _ (knows.given id member)

theorem knows_mapped (knows : Knows moments given both) (window : WindowCandidate) (nowMs : ℕ) :
    Knows (moments ++ [.mapped window nowMs])
      (given ++ (mapToplevel both.ledger window nowMs).2.toList)
      (both.step toLowercase (.mapped window nowMs)) := by
  have pruned : (both.step toLowercase (.mapped window nowMs)).correlator.pending =
      both.correlator.pending.filter (awaited nowMs) := by
    simp only [Both.step, Correlator.correlate, Correlator.pruneExpired, knows.timeout]
    rfl
  have correlator : ∀ now, (∀ moment ∈ moments ++ [.mapped window nowMs], moment.time ≤ now) →
      (both.step toLowercase (.mapped window nowMs)).correlator.pending.filter (awaited now) =
        ((launches (moments ++ [.mapped window nowMs])).filter (isFresh now)).map toPending := by
    intro now all
    obtain ⟨last, before⟩ := times_append all
    have order : nowMs ≤ now := last
    rw [pruned, awaited_later order, knows.correlator now before, launches_mapped]
  have timeout : (both.step toLowercase (.mapped window nowMs)).correlator.timeoutMs =
      defaultCorrelationTimeoutMs := knows.timeout
  cases found : both.ledger.correlate window.appId window.pid window.title (nanos nowMs) with
  | none =>
    have mapped : mapToplevel both.ledger window nowMs = (both.ledger, none) := by
      unfold mapToplevel
      rw [found]
    have same : (both.step toLowercase (.mapped window nowMs)).ledger = both.ledger :=
      congrArg Prod.fst mapped
    rw [mapped]
    simp only [Option.toList_none, List.append_nil]
    refine ⟨?_, correlator, timeout, ?_, ?_⟩
    · intro now all
      rw [same, launches_mapped]
      exact knows.ledger now (times_append all).2
    · rw [same, launches_mapped]
      exact knows.known
    · rw [launches_mapped]
      exact knows.given
  | some id =>
    have mapped : mapToplevel both.ledger window nowMs = (both.ledger.take id, some id) := by
      unfold mapToplevel
      rw [found]
    have taken : (both.step toLowercase (.mapped window nowMs)).ledger = both.ledger.take id :=
      congrArg Prod.fst mapped
    rw [mapped]
    simp only [Option.toList_some]
    refine ⟨?_, correlator, timeout, ?_, ?_⟩
    · intro now all
      rw [taken, launches_mapped]
      exact ledger_take (knows.ledger now (times_append all).2)
    · intro launch member
      rw [taken] at member
      rw [launches_mapped]
      exact knows.known launch (List.mem_filter.mp member).1
    · intro other member
      rw [launches_mapped]
      rcases List.mem_append.mp member with old | new
      · exact knows.given other old
      · obtain ⟨launch, there, same⟩ := Compositor.Launches.correlate_mem found
        rw [List.mem_singleton.mp new, ← same]
        exact knows.known launch there

end Steps

/-! ## Whole runs -/

section Runs

variable (toLowercase : List Char → List Char)

theorem attributed_append (both : Both) (earlier rest : List Moment) :
    attributed toLowercase both (earlier ++ rest) =
      attributed toLowercase both earlier ++
        attributed toLowercase (earlier.foldl (Both.step toLowercase) both) rest := by
  induction earlier generalizing both with
  | nil => rfl
  | cons moment earlier ih =>
    cases moment with
    | launched launch => exact ih _
    | mapped window nowMs =>
      rw [List.cons_append, attributed, ih, attributed, List.append_assoc]
      rfl

theorem Orderly.front {moments : List Moment} {last : Moment}
    (orderly : Orderly (moments ++ [last])) : Orderly moments where
  times := (List.pairwise_append.mp orderly.times).1
  ids := by
    have ids := orderly.ids
    rw [launches_append] at ids
    exact (List.pairwise_append.mp ids).1
  room earlier launch rest split :=
    orderly.room earlier launch (rest ++ [last]) (by rw [split]; simp)

/-- Launches are recorded in the order in which the server compares them. -/
theorem Orderly.started {moments : List Moment} (orderly : Orderly moments) :
    (launches moments).Pairwise fun a b => (toPending a).notAfter (toPending b) = true := by
  have times : (launches moments).Pairwise fun a b => a.startedAtMs ≤ b.startedAtMs := by
    refine List.pairwise_filterMap.mpr (orderly.times.imp fun {first second} order => ?_)
    cases first with
    | mapped window nowMs => exact fun launch found => by cases found
    | launched first =>
      cases second with
      | mapped window nowMs => exact fun _ _ launch found => by cases found
      | launched second =>
        rintro _ ⟨⟩ _ ⟨⟩
        exact order
  refine (times.and orderly.ids).imp fun {first second} both => ?_
  obtain ⟨order, ids⟩ := both
  rw [not_after_iff]
  simp only [toPending]
  omega

/-- After any orderly run both know the launches that are fresh, the compositor without those it
has attributed. -/
theorem knows_after {moments : List Moment} (orderly : Orderly moments) :
    Knows moments (attributed toLowercase {} moments) (after toLowercase moments) := by
  induction moments using List.reverseRecOn with
  | nil =>
    exact {
      ledger := fun _ _ => rfl
      correlator := fun _ _ => rfl
      timeout := rfl
      known := fun _ member => absurd member List.not_mem_nil
      given := fun _ member => absurd member List.not_mem_nil }
  | append_singleton moments last ih =>
    have knows := ih orderly.front
    have step : after toLowercase (moments ++ [last]) =
        (after toLowercase moments).step toLowercase last := by
      rw [after, List.foldl_append]
      rfl
    have before := (List.pairwise_append.mp orderly.times).2.2
    rw [step, attributed_append]
    cases last with
    | launched launch =>
      have ids := orderly.ids
      rw [launches_launched] at ids
      have room := orderly.room moments launch [] rfl
      rw [attributed, attributed, List.append_nil]
      exact knows_launched knows
        (fun moment member => before moment member _ List.mem_cons_self)
        (fun earlier member => (List.pairwise_append.mp ids).2.2 earlier member launch
          List.mem_cons_self) room
    | mapped window nowMs =>
      rw [attributed, attributed, List.append_nil]
      exact knows_mapped knows window nowMs

end Runs

/-! ## The choices -/

/-- One tier of the compositor, which asks for something that the window may lack. -/
theorem tier_noted {α : Type} (value : Option α)
    (test : α → Compositor.Launches.PendingLaunch → Bool) (left : List LaunchRecord) :
    (value.bind fun value => ((left.map noted).filter (test value)).getLast?) =
      (latest (fun launch => value.any fun value => test value (noted launch)) left).map noted := by
  cases value with
  | none => simp [latest]
  | some value =>
    rw [Option.bind_some, List.filter_map, List.getLast?_map]
    rfl

theorem same_pid_any (window : WindowCandidate) :
    samePid window = fun launch => window.pid.any fun pid => (noted launch).pid == some pid := by
  funext launch
  obtain ⟨launchId, appId, launchPid, startedAtMs⟩ := launch
  obtain ⟨windowId, windowPid, windowApp, title⟩ := window
  cases launchPid <;> cases windowPid <;> rfl

section Choices

variable (toLowercase : List Char → List Char) {earlier : List Moment} (window : WindowCandidate)
  {nowMs : ℕ}

/-- The compositor chooses among the fresh launches that it has not attributed yet. -/
theorem compositor_choice (orderly : Orderly earlier)
    (past : ∀ moment ∈ earlier, moment.time ≤ nowMs) :
    compositorChoice toLowercase earlier window nowMs =
      (((latest (samePid window)
          ((launches earlier).filter (isLeft (attributed toLowercase {} earlier) nowMs))).or
        (latest (appIdMatch window)
          ((launches earlier).filter (isLeft (attributed toLowercase {} earlier) nowMs)))).or
        (latest (titleMatch window)
          ((launches earlier).filter (isLeft (attributed toLowercase {} earlier) nowMs)))).map
            LaunchRecord.launchId := by
  have known := (knows_after toLowercase orderly).ledger nowMs past
  have choice : compositorChoice toLowercase earlier window nowMs =
      (after toLowercase earlier).ledger.correlate window.appId window.pid window.title
        (nanos nowMs) := by
    unfold compositorChoice mapToplevel
    cases (after toLowercase earlier).ledger.correlate window.appId window.pid window.title
      (nanos nowMs) <;> rfl
  rw [choice, LaunchLedger.correlate]
  simp only [rfind_fresh, known]
  rw [tier_noted window.pid fun pid launch => launch.pid == some pid,
    tier_noted window.appId fun appId launch => appIdsMatch launch.appId appId,
    tier_noted window.title fun title launch => titleMatches launch.appId title,
    ← same_pid_any, ← Option.map_or, ← Option.map_or, Option.map_map]
  rfl

/-- The server chooses among all fresh launches. -/
theorem server_choice (orderly : Orderly earlier)
    (past : ∀ moment ∈ earlier, moment.time ≤ nowMs) :
    serverChoice toLowercase earlier window nowMs =
      ((latest (samePid window) ((launches earlier).filter (isFresh nowMs))).or
        (latest (fun launch => textMatch window launch toLowercase)
          ((launches earlier).filter (isFresh nowMs)))).map LaunchRecord.launchId := by
  have knows := knows_after toLowercase orderly
  have pruned : ((after toLowercase earlier).correlator.pruneExpired nowMs).pending =
      ((launches earlier).filter (isFresh nowMs)).map toPending := by
    rw [← knows.correlator nowMs past]
    simp only [Correlator.pruneExpired, knows.timeout]
    rfl
  have started : (((launches earlier).filter (isFresh nowMs)).map toPending).Pairwise
      fun a b => a.notAfter b = true :=
    List.pairwise_map.mpr (orderly.started.filter _)
  have tier : ∀ matching : PendingLaunch → Bool,
      bestMatch (((launches earlier).filter (isFresh nowMs)).map toPending) matching =
        (latest (fun launch => matching (toPending launch))
          ((launches earlier).filter (isFresh nowMs))).map toPending := by
    intro matching
    rw [best_match_last started, List.filter_map, List.getLast?_map]
    rfl
  -- Without a class the second tier matches nothing.
  have unclassed : latest (fun launch => matchesStartupWmClass toLowercase (toPending launch) window)
      ((launches earlier).filter (isFresh nowMs)) = none := by
    have never : ∀ launch ∈ (launches earlier).filter (isFresh nowMs),
        ¬ matchesStartupWmClass toLowercase (toPending launch) window = true := by
      intro launch _ matched
      cases matched
    rw [latest, List.filter_eq_nil_iff.mpr never]
    rfl
  unfold serverChoice Correlator.correlate
  simp only [pruned, tier, tiers, List.findSome?_cons, List.findSome?_nil, matcherFor, unclassed]
  change Option.map _ _ = (((latest (fun launch => matchesPid (toPending launch) window) _).or
    (latest (fun launch => matchesAppIdOrTitle toLowercase (toPending launch) window) _)).map _)
  cases latest (fun launch => matchesPid (toPending launch) window)
      ((launches earlier).filter (isFresh nowMs)) with
  | some launch => rfl
  | none =>
    cases latest (fun launch => matchesAppIdOrTitle toLowercase (toPending launch) window)
      ((launches earlier).filter (isFresh nowMs)) <;> rfl

end Choices

/-! ## Agreement -/

/-- The same launches matter to both: those with the pid of the window have not been attributed,
and without any, the launches whose text the server finds are those that are left for the
compositor and match by name. -/
structure SameEvidence (toLowercase : List Char → List Char) (earlier : List Moment)
    (window : WindowCandidate) (nowMs : ℕ) : Prop where
  pid : ∀ launch ∈ launches earlier, isFresh nowMs launch = true → samePid window launch = true →
    launch.launchId ∉ attributed toLowercase {} earlier
  text : (∀ launch ∈ launches earlier, isFresh nowMs launch = true →
      samePid window launch = false) →
    ∀ launch ∈ launches earlier, isFresh nowMs launch = true →
      (textMatch window launch toLowercase = true ↔
        launch.launchId ∉ attributed toLowercase {} earlier ∧
          nameMatch window launch ((launches earlier).filter
            (isLeft (attributed toLowercase {} earlier) nowMs)) = true)

theorem latest_filter (matching kept : LaunchRecord → Bool) (launches : List LaunchRecord) :
    latest matching (launches.filter kept) =
      latest (fun launch => matching launch && kept launch) launches := by
  rw [latest, latest, List.filter_filter]

theorem latest_congr {first second : LaunchRecord → Bool} {launches : List LaunchRecord}
    (same : ∀ launch ∈ launches, (first launch = true ↔ second launch = true)) :
    latest first launches = latest second launches := by
  rw [latest, latest, List.filter_congr fun launch member =>
    Bool.eq_iff_iff.mpr (same launch member)]

theorem latest_none_iff {matching : LaunchRecord → Bool} {launches : List LaunchRecord} :
    latest matching launches = none ↔ ∀ launch ∈ launches, matching launch = false := by
  rw [latest, List.getLast?_eq_none_iff, List.filter_eq_nil_iff]
  simp only [Bool.not_eq_true]

/-- The two tiers of the compositor after the pid, as one. -/
theorem latest_name (window : WindowCandidate) (left : List LaunchRecord) :
    (latest (appIdMatch window) left).or (latest (titleMatch window) left) =
      latest (fun launch => nameMatch window launch left) left := by
  cases some : left.any (appIdMatch window) with
  | true =>
    have named : latest (fun launch => nameMatch window launch left) left =
        latest (appIdMatch window) left :=
      latest_congr fun launch _ => by rw [nameMatch, some, if_pos rfl]
    have found : latest (appIdMatch window) left ≠ none := by
      intro none
      obtain ⟨launch, member, matched⟩ := List.any_eq_true.mp some
      rw [latest_none_iff.mp none launch member] at matched
      cases matched
    obtain ⟨launch, found⟩ := Option.ne_none_iff_exists'.mp found
    rw [named, found]
    rfl
  | false =>
    have named : latest (fun launch => nameMatch window launch left) left =
        latest (titleMatch window) left :=
      latest_congr fun launch _ => by rw [nameMatch, some, if_neg Bool.false_ne_true]
    have none : latest (appIdMatch window) left = none := by
      rw [latest_none_iff]
      exact fun launch member => by simpa using List.any_eq_false.mp some launch member
    rw [named, none]
    rfl

/-- In an orderly run the server attributes a window to the latest fresh launch of its first tier
with a match, whatever was attributed before, and the compositor to that of its own tiers, among
the launches that it has not attributed before; they agree where they have the same evidence. -/
theorem correlators_agree (toLowercase : List Char → List Char) {earlier : List Moment}
    {window : WindowCandidate} {nowMs : ℕ} (orderly : Orderly (earlier ++ [.mapped window nowMs])) :
    serverChoice toLowercase earlier window nowMs =
        ((latest (samePid window) ((launches earlier).filter (isFresh nowMs))).or
          (latest (fun launch => textMatch window launch toLowercase)
            ((launches earlier).filter (isFresh nowMs)))).map LaunchRecord.launchId ∧
      compositorChoice toLowercase earlier window nowMs =
        (((latest (samePid window)
            ((launches earlier).filter (isLeft (attributed toLowercase {} earlier) nowMs))).or
          (latest (appIdMatch window)
            ((launches earlier).filter (isLeft (attributed toLowercase {} earlier) nowMs)))).or
          (latest (titleMatch window)
            ((launches earlier).filter (isLeft (attributed toLowercase {} earlier) nowMs)))).map
              LaunchRecord.launchId ∧
      (SameEvidence toLowercase earlier window nowMs →
        compositorChoice toLowercase earlier window nowMs =
          serverChoice toLowercase earlier window nowMs) := by
  have past : ∀ moment ∈ earlier, moment.time ≤ nowMs := fun moment member =>
    (List.pairwise_append.mp orderly.times).2.2 moment member _ List.mem_cons_self
  have server := server_choice toLowercase window orderly.front past
  have compositor := compositor_choice toLowercase window orderly.front past
  refine ⟨server, compositor, fun same => ?_⟩
  -- The launches with the pid of the window are all left.
  have pid : latest (samePid window)
      ((launches earlier).filter (isLeft (attributed toLowercase {} earlier) nowMs)) =
        latest (samePid window) ((launches earlier).filter (isFresh nowMs)) := by
    rw [latest_filter, latest_filter]
    refine latest_congr fun launch member => ?_
    simp only [isLeft, Bool.and_eq_true, decide_eq_true_eq]
    constructor
    · rintro ⟨matched, fresh, -⟩
      exact ⟨matched, fresh⟩
    · rintro ⟨matched, fresh⟩
      exact ⟨matched, fresh, same.pid launch member fresh matched⟩
  rw [server, compositor, pid, Option.or_assoc, latest_name]
  cases found : latest (samePid window) ((launches earlier).filter (isFresh nowMs)) with
  | some launch => rfl
  | none =>
    have unmatched : ∀ launch ∈ launches earlier, isFresh nowMs launch = true →
        samePid window launch = false := fun launch member fresh =>
      latest_none_iff.mp found launch (List.mem_filter.mpr ⟨member, fresh⟩)
    rw [Option.none_or, Option.none_or, latest_filter, latest_filter]
    refine congrArg (Option.map LaunchRecord.launchId) (latest_congr fun launch member => ?_)
    simp only [isLeft, Bool.and_eq_true, decide_eq_true_eq]
    constructor
    · rintro ⟨matched, fresh, left⟩
      exact ⟨(same.text unmatched launch member fresh).mpr ⟨left, matched⟩, fresh⟩
    · rintro ⟨matched, fresh⟩
      obtain ⟨left, matched⟩ := (same.text unmatched launch member fresh).mp matched
      exact ⟨matched, fresh, left⟩

/-- `to_lowercase` on ASCII texts. -/
def asciiLowercase (text : List Char) : List Char := text.map Char.toLower

def firefox : LaunchRecord := ⟨⟨1⟩, ⟨"org.mozilla.firefox"⟩, some 42, 0⟩

def nautilus : LaunchRecord := ⟨⟨2⟩, ⟨"org.gnome.Nautilus"⟩, none, 5⟩

/-- A window of the process that firefox was launched as. -/
def firefoxWindow : WindowCandidate := ⟨⟨1⟩, some 42, some ⟨"firefox"⟩, some "Mozilla Firefox"⟩

/-- The second window of a launch is attributed by pid after the first one, and the app id of
another window extends that of the launch. -/
theorem correlators_differ :
    (compositorChoice asciiLowercase [.launched firefox, .mapped firefoxWindow 10]
          ⟨⟨2⟩, some 42, some ⟨"firefox"⟩, none⟩ 20 = none ∧
        serverChoice asciiLowercase [.launched firefox, .mapped firefoxWindow 10]
          ⟨⟨2⟩, some 42, some ⟨"firefox"⟩, none⟩ 20 = some ⟨1⟩) ∧
      compositorChoice asciiLowercase [.launched firefox]
          ⟨⟨1⟩, none, some ⟨"firefox-esr"⟩, none⟩ 10 = none ∧
        serverChoice asciiLowercase [.launched firefox]
          ⟨⟨1⟩, none, some ⟨"firefox-esr"⟩, none⟩ 10 = some ⟨1⟩ := by
  decide +kernel

theorem correlators_agree_nautilus :
    compositorChoice asciiLowercase
        [.launched firefox, .launched nautilus, .mapped firefoxWindow 10]
        ⟨⟨2⟩, none, some ⟨"nautilus"⟩, some "Home"⟩ 20 =
      serverChoice asciiLowercase
        [.launched firefox, .launched nautilus, .mapped firefoxWindow 10]
        ⟨⟨2⟩, none, some ⟨"nautilus"⟩, some "Home"⟩ 20 := by
  refine (correlators_agree asciiLowercase ⟨by decide, by decide, ?_⟩).2.2
    ⟨by decide +kernel, by decide +kernel⟩
  intro earlier launch rest split
  have short := congrArg List.length split
  have launched : (launches earlier).length ≤ earlier.length := List.length_filterMap_le _ _
  have fresh := List.length_filter_le (isFresh launch.startedAtMs) (launches earlier)
  simp only [List.length_append, List.length_cons, List.length_nil] at short
  simp only [maxPendingLaunches]
  omega

end ADesk.Server.Attribution
