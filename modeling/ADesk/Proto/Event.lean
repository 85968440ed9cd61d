/- ADesk/Proto/Event
   digest: The values of the domain on the wire: numbers and ids, rectangles and regions, and
   notifications. -/

import ADesk.Core.Event
import ADesk.Foundation.Json

set_option autoImplicit false

namespace ADesk.Proto.Event

open ADesk.Core.Event hiding EventKind
open ADesk.Core.Geometry (Rect Region)
open ADesk.Core.Ids
open ADesk.Foundation.Json

/-! ## Numbers, names and ids -/

def u64 : Codec 0 ℕ := .natural (2 ^ 64) (by decide)

def u32 : Codec 0 ℕ := .natural (2 ^ 32) (by decide)

def i32 : Codec 0 ℤ := .integer (-2 ^ 31) (2 ^ 31) (by decide) (by decide)

theorem u64_fits (value : ℕ) : u64.Fits value ↔ value < 2 ^ 64 := Iff.rfl

theorem u32_fits (value : ℕ) : u32.Fits value ↔ value < 2 ^ 32 := Iff.rfl

theorem i32_fits (value : ℤ) : i32.Fits value ↔ -2 ^ 31 ≤ value ∧ value < 2 ^ 31 := Iff.rfl

def windowId : Codec 0 WindowId := u64.via WindowId.mk WindowId.val fun _ => rfl

def launchId : Codec 0 LaunchId := u64.via LaunchId.mk LaunchId.val fun _ => rfl

def notificationId : Codec 0 NotificationId :=
  u64.via NotificationId.mk NotificationId.val fun _ => rfl

def appId : Codec 0 AppId := Codec.text.via AppId.mk AppId.val fun _ => rfl

def urgencyName : NotificationUrgency → String
  | .low => "low"
  | .normal => "normal"
  | .critical => "critical"

def urgencyOf : String → Option NotificationUrgency
  | "low" => some .low
  | "normal" => some .normal
  | "critical" => some .critical
  | _ => none

def urgency : Codec 0 NotificationUrgency :=
  .named urgencyName urgencyOf fun value => by cases value with | _ => rfl

def closeReasonName : NotificationCloseReason → String
  | .dismissed => "dismissed"
  | .action => "action"
  | .expired => "expired"
  | .closed => "closed"

def closeReasonOf : String → Option NotificationCloseReason
  | "dismissed" => some .dismissed
  | "action" => some .action
  | "expired" => some .expired
  | "closed" => some .closed
  | _ => none

def closeReason : Codec 0 NotificationCloseReason :=
  .named closeReasonName closeReasonOf fun value => by cases value with | _ => rfl

/-! ## Rectangles and notifications -/

def rect : Codec 1 Rect where
  encode r := .object
    [("h", u32.encode r.h), ("w", u32.encode r.w), ("x", i32.encode r.x), ("y", i32.encode r.y)]
  decode
    | .object members => do
      let x ← i32.required members "x"
      let y ← i32.required members "y"
      let w ← u32.required members "w"
      let h ← u32.required members "h"
      some ⟨x, y, w, h⟩
    | _ => none
  Fits r := i32.Fits r.x ∧ i32.Fits r.y ∧ u32.Fits r.w ∧ u32.Fits r.h
  reads r fits := by
    obtain ⟨x, y, w, h⟩ := fits
    simp [Codec.required, List.lookup_cons, i32.reads _ x, i32.reads _ y, u32.reads _ w, u32.reads _ h]
  held r fits fitting := by
    obtain ⟨x, y, w, h⟩ := fits
    refine .ofObject fitting (ascending ["h", "w", "x", "y"] rfl (by decide)) fun inside => ?_
    simp [i32.held _ x, i32.held _ y, u32.held _ w, u32.held _ h]
  solid _ := Value.noConfusion

/-- A region is its rectangles; no region of the runtime stores an empty one. -/
def region : Codec 2 Region where
  encode r := rect.list.encode r.rects
  decode value :=
    (rect.list.decode value).bind fun rects =>
      if nonempty : ∀ r ∈ rects, r.isEmpty = false then some ⟨rects, nonempty⟩ else none
  Fits r := rect.list.Fits r.rects
  reads r fits := by
    rw [rect.list.reads _ fits, Option.bind_some, dif_pos r.nonempty]
  held r fits fitting := rect.list.held _ fits fitting
  solid _ := Value.noConfusion

def notificationAction : Codec 1 NotificationAction where
  encode a := .object [("key", .string a.key), ("label", .string a.label)]
  decode
    | .object members => do
      let key ← Codec.text.required members "key"
      let label ← Codec.text.required members "label"
      some ⟨key, label⟩
    | _ => none
  Fits _ := True
  reads a _ := by simp [Codec.required, List.lookup_cons]
  held a _ fitting := by
    refine .ofObject fitting (ascending ["key", "label"] rfl (by decide)) fun _ => ?_
    simp [Value.Held.string]
  solid _ := Value.noConfusion

/-- A map of texts, in the order of its keys. -/
def hints : Codec 1 (List (String × String)) where
  encode entries := .object (entries.map fun entry => (entry.1, .string entry.2))
  decode
    | .object members =>
      members.mapM fun entry => (Codec.text.decode entry.2).map (entry.1, ·)
    | _ => none
  Fits entries := (entries.map Prod.fst).Pairwise fun key later => compare key later = .lt
  reads entries fits := by
    induction entries with
    | nil => rfl
    | cons first rest later =>
      have others := later (List.pairwise_cons.mp fits).2
      simp only [List.map_cons, List.mapM_cons, Codec.text_decode] at others ⊢
      rw [others]
      rfl
  held entries fits fitting := by
    refine .ofObject fitting ?_ fun _ => ?_
    · unfold Ascending
      rw [List.map_map]
      exact fits
    · intro entry member
      obtain ⟨hint, _, rfl⟩ := List.mem_map.mp member
      exact .string hint.2
  solid _ := Value.noConfusion

/-- The numbers of a notification fit their types, and its hints are a map. -/
structure FitsNotification (n : Notification) : Prop where
  id : notificationId.Fits n.id
  hints : hints.Fits n.hints
  postedSeq : u64.Fits n.postedSeq
  postedTsMs : u64.Fits n.postedTsMs
  closedSeq : ∀ seq ∈ n.closedSeq, u64.Fits seq
  timeoutMs : ∀ ms ∈ n.timeoutMs, u64.Fits ms

def notification : Codec 3 Notification where
  encode n := .object
    [("actions", notificationAction.list.encode n.actions), ("body", .string n.body),
      ("category", Codec.text.written n.category),
      ("close_reason", closeReason.written n.closeReason),
      ("closed_seq", u64.written n.closedSeq), ("dismissed", .bool n.dismissed),
      ("hints", hints.encode n.hints), ("id", notificationId.encode n.id),
      ("posted_seq", u64.encode n.postedSeq), ("posted_ts_ms", u64.encode n.postedTsMs),
      ("source", Codec.text.written n.source), ("timeout_ms", u64.written n.timeoutMs),
      ("title", .string n.title), ("urgency", urgency.encode n.urgency)]
  decode
    | .object members => do
      let id ← notificationId.required members "id"
      let source ← Codec.text.optional members "source"
      let title ← Codec.text.required members "title"
      let body ← Codec.text.required members "body"
      let urgency ← urgency.required members "urgency"
      let category ← Codec.text.optional members "category"
      let actions ← notificationAction.list.required members "actions"
      let hints ← hints.required members "hints"
      let postedSeq ← u64.required members "posted_seq"
      let postedTsMs ← u64.required members "posted_ts_ms"
      let dismissed ← Codec.flag.required members "dismissed"
      let closedSeq ← u64.optional members "closed_seq"
      let closeReason ← closeReason.optional members "close_reason"
      let timeoutMs ← u64.optional members "timeout_ms"
      some {
        id := id
        source := source
        title := title
        body := body
        urgency := urgency
        category := category
        actions := actions
        hints := hints
        postedSeq := postedSeq
        postedTsMs := postedTsMs
        dismissed := dismissed
        closedSeq := closedSeq
        closeReason := closeReason
        timeoutMs := timeoutMs }
    | _ => none
  Fits := FitsNotification
  reads n fits := by
    have actions := notificationAction.list.reads n.actions fun _ _ => trivial
    have source := Codec.text.found_written (a := n.source) fun _ _ => trivial
    have category := Codec.text.found_written (a := n.category) fun _ _ => trivial
    have reason := closeReason.found_written (a := n.closeReason) fun _ _ => trivial
    have closed := u64.found_written fits.closedSeq
    have timeout := u64.found_written fits.timeoutMs
    have level := urgency.reads n.urgency trivial
    simp [Codec.required, Codec.optional, List.lookup_cons, actions, source, category, reason, closed,
      timeout, level, hints.reads _ fits.hints, notificationId.reads _ fits.id,
      u64.reads _ fits.postedSeq, u64.reads _ fits.postedTsMs]
  held {room} n fits fitting := by
    refine .ofObject fitting (ascending
      ["actions", "body", "category", "close_reason", "closed_seq", "dismissed", "hints", "id",
        "posted_seq", "posted_ts_ms", "source", "timeout_ms", "title", "urgency"]
      rfl (by decide)) fun inside => ?_
    have less : 1 ≤ room - 1 := Nat.le_of_succ_le inside
    have actions : (notificationAction.list.encode n.actions).Held (room - 1) :=
      notificationAction.list.held n.actions (fun _ _ => trivial) inside
    have source : (Codec.text.written n.source).Held (room - 1) :=
      Codec.text.written_held (fun _ _ => trivial) (Nat.zero_le _)
    have category : (Codec.text.written n.category).Held (room - 1) :=
      Codec.text.written_held (fun _ _ => trivial) (Nat.zero_le _)
    have reason : (closeReason.written n.closeReason).Held (room - 1) :=
      closeReason.written_held (fun _ _ => trivial) (Nat.zero_le _)
    have level : (urgency.encode n.urgency).Held (room - 1) :=
      urgency.held n.urgency trivial (Nat.zero_le _)
    simp [Value.Held.string, Value.Held.bool, actions, source, category, reason,
      u64.written_held fits.closedSeq, u64.written_held fits.timeoutMs, level,
      hints.held _ fits.hints less, notificationId.held _ fits.id, u64.held _ fits.postedSeq,
      u64.held _ fits.postedTsMs]
  solid _ := Value.noConfusion

end ADesk.Proto.Event
