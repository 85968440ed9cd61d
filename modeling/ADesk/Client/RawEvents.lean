/- ADesk/Client/RawEvents
   digest: The lines of events as the client reads them back, against what the server wrote. -/

import ADesk.Proto.Frame

set_option autoImplicit false

namespace ADesk.Client.RawEvents

open ADesk.Core.Event hiding EventKind
open ADesk.Foundation.Json
open ADesk.Proto.Event
open ADesk.Proto.Frame

universe u

variable {Line : Type u} {Image : Type}

/-! ## Reading a line -/

/-- One inbound event frame, its envelope and its payload as it came. -/
structure RawEvent where
  name : String
  seq : ℕ
  tsMs : ℕ
  data : Value

/-- The raw event of a frame that was read strictly. -/
def fromFrame (images : ImageCodec Image) (frame : EventFrame Image) : RawEvent :=
  ⟨frame.event.kindName, frame.seq, frame.tsMs, frame.data.toData images⟩

/-- The raw event of an object that is no strict frame. -/
def lenientEvent : Value → Option RawEvent
  | .object members =>
    match members.lookup "event" with
    | some (.string name) => do
      let seq ← u64.required members "seq"
      let tsMs ← u64.required members "ts_ms"
      some ⟨name, seq, tsMs, EventFrame.dataOf members⟩
    | _ => none
  | _ => none

/-- The event that a line carries; responses and lines that are refused carry none. -/
def decodeLine (text : Text Line) (images : ImageCodec Image) (line : Line) : Option RawEvent :=
  match text.parse line with
  | none => none
  | some value =>
    match EventFrame.fromValue images value with
    | .ok frame => some (fromFrame images frame)
    | .error _ => lenientEvent value

/-! ## The events of the client -/

inductive AgpEvent (Image : Type)
  | runtime (event : RuntimeEvent)
  | quiet (seq tsMs : ℕ) (event : QuietEvent)
  | inspectFrame (seq tsMs : ℕ) (image : Image)
  | other (raw : RawEvent)

def AgpEvent.runtime? : AgpEvent Image → Option RuntimeEvent
  | .runtime event => some event
  | .quiet _ _ _ | .inspectFrame _ _ _ | .other _ => none

/-- The fields of the runtime event with the given tag. -/
def readVariant (seq tsMs : ℕ) (members : List (String × Value)) : String → Option RuntimeEvent
  | "window_created" => do
    let window ← windowId.required members "window_id"
    let app ← appId.optional members "app_id"
    let pid ← i32.optional members "pid"
    let launch ← launchId.optional members "launch_id"
    let title ← Codec.text.optional members "title"
    some (.windowCreated seq tsMs window app pid launch title)
  | "window_destroyed" => do
    let window ← windowId.required members "window_id"
    some (.windowDestroyed seq tsMs window)
  | "window_activated" => do
    let window ← windowId.required members "window_id"
    let previous ← windowId.optional members "previous"
    some (.windowActivated seq tsMs window previous)
  | "title_changed" => do
    let window ← windowId.required members "window_id"
    let title ← Codec.text.optional members "title"
    some (.titleChanged seq tsMs window title)
  | "surface_commit" => do
    let window ← windowId.required members "window_id"
    let commitSeq ← u64.required members "commit_seq"
    let damage ← region.required members "damage"
    some (.surfaceCommit seq tsMs window commitSeq damage)
  | "focus_changed" => do
    let window ← windowId.optional members "window_id"
    some (.focusChanged seq tsMs window)
  | "popup_appeared" => do
    let window ← windowId.required members "window_id"
    let popupId ← u64.required members "popup_id"
    some (.popupAppeared seq tsMs window popupId)
  | "popup_disappeared" => do
    let window ← windowId.required members "window_id"
    let popupId ← u64.required members "popup_id"
    some (.popupDisappeared seq tsMs window popupId)
  | "app_launched" => do
    let launch ← launchId.required members "launch_id"
    let app ← appId.required members "app_id"
    let pid ← i32.optional members "pid"
    some (.appLaunched seq tsMs launch app pid)
  | "notification" => do
    let posted ← notification.required members "notification"
    some (.notification seq tsMs posted)
  | "notification_closed" => do
    let closed ← notificationId.required members "notification_id"
    let reason ← closeReason.required members "reason"
    some (.notificationClosed seq tsMs closed reason)
  | "notification_action" => do
    let acted ← notificationId.required members "notification_id"
    let key ← Codec.text.required members "action_key"
    some (.notificationAction seq tsMs acted key)
  | _ => none

/-- A runtime event from the object that its tag, its sequence number and its time were merged
into. -/
def readRuntime (members : List (String × Value)) : Option RuntimeEvent := do
  let tag ← Codec.text.required members "type"
  let seq ← u64.required members "seq"
  let tsMs ← u64.required members "ts_ms"
  readVariant seq tsMs members tag

/-- The fields of the data with the tag, the sequence number and the time in them. -/
def merged (name : String) (seq tsMs : ℕ) (fields : List (String × Value)) :
    List (String × Value) :=
  insert (insert (insert fields "type" (.string name)) "seq" (u64.encode seq)) "ts_ms"
    (u64.encode tsMs)

def runtimeEvent (raw : RawEvent) : Option RuntimeEvent :=
  match raw.data with
  | .object fields => readRuntime (merged raw.name raw.seq raw.tsMs fields)
  | _ => none

/-- The event of the client for a raw one; what does not fit its type is kept as it came, but
for an image that was taken out to be read. -/
def agpEventFromRaw (images : ImageCodec Image) (raw : RawEvent) : AgpEvent Image :=
  match raw.name with
  | "inspect_frame" =>
    match raw.data with
    | .object members =>
      match members.lookup "image" with
      | some image =>
        match images.decode image with
        | some image => .inspectFrame raw.seq raw.tsMs image
        | none => .other { raw with data := .object (insert members "image" .null) }
      | none => .other raw
    | _ => .other raw
  | "quiet" =>
    match quiet.decode raw.data with
    | some event => .quiet raw.seq raw.tsMs event
    | none => .other raw
  | "surface_damage" => .other raw
  | _ =>
    match runtimeEvent raw with
    | some event => .runtime event
    | none => .other raw

/-- The event that the client makes of a line. -/
def received (text : Text Line) (images : ImageCodec Image) (line : Line) :
    Option (AgpEvent Image) :=
  (decodeLine text images line).map (agpEventFromRaw images)

/-! ## Reading back a runtime event -/

section Merged

variable {name : String} {seq tsMs : ℕ} {fields : List (String × Value)}

@[simp] theorem lookup_tag :
    (merged name seq tsMs fields).lookup "type" = some (.string name) := by
  unfold merged
  rw [lookup_insert_other (by decide), lookup_insert_other (by decide), lookup_insert_self]

@[simp] theorem lookup_seq :
    (merged name seq tsMs fields).lookup "seq" = some (u64.encode seq) := by
  unfold merged
  rw [lookup_insert_other (by decide), lookup_insert_self]

@[simp] theorem lookup_ts_ms :
    (merged name seq tsMs fields).lookup "ts_ms" = some (u64.encode tsMs) := by
  unfold merged
  rw [lookup_insert_self]

/-- The other members are those of the data. -/
@[simp] theorem lookup_merged {key : String} (tag : key ≠ "type") (sequence : key ≠ "seq")
    (time : key ≠ "ts_ms") :
    (merged name seq tsMs fields).lookup key = fields.lookup key := by
  unfold merged
  rw [lookup_insert_other time, lookup_insert_other sequence, lookup_insert_other tag]

end Merged

variable {fields : List (String × Value)}

/-- The runtime event of a raw one, read from the members of its data. -/
theorem runtime_variant {seq tsMs : ℕ} (fitsSeq : u64.Fits seq) (fitsTsMs : u64.Fits tsMs)
    {data : Value} (object : data = .object fields) (name : String) :
    runtimeEvent ⟨name, seq, tsMs, data⟩ =
      readVariant seq tsMs (merged name seq tsMs fields) name := by
  subst object
  simp [runtimeEvent, readRuntime, Codec.required, u64.reads _ fitsSeq, u64.reads _ fitsTsMs]

/-- The data of a payload gives back the runtime event that the payload stands for. -/
theorem runtime_event (images : ImageCodec Image) {payload : EventPayload Image}
    (fits : payload.Fits) (runtime : payload.kind ≠ .quiet ∧ payload.kind ≠ .inspectFrame)
    {seq tsMs : ℕ} (fitsSeq : u64.Fits seq) (fitsTsMs : u64.Fits tsMs) :
    runtimeEvent ⟨payload.kind.kindName, seq, tsMs, payload.toData images⟩ =
      payload.toRuntime seq tsMs := by
  cases payload with
  | windowCreated event =>
    obtain ⟨window, pid, launch⟩ := fits
    have app := appId.found_written (a := event.appId) fun _ _ => trivial
    have title := Codec.text.found_written (a := event.title) fun _ _ => trivial
    refine (runtime_variant fitsSeq fitsTsMs (by rfl) _).trans ?_
    simp [EventPayload.kind, EventKind.kindName, readVariant, EventPayload.toRuntime,
      Codec.required, Codec.optional, List.lookup_cons, windowId.reads _ window, app, title,
      i32.found_written pid, launchId.found_written launch]
  | windowDestroyed event =>
    refine (runtime_variant fitsSeq fitsTsMs (by rfl) _).trans ?_
    simp [EventPayload.kind, EventKind.kindName, readVariant, EventPayload.toRuntime,
      Codec.required, windowId.reads _ fits]
  | windowActivated event =>
    refine (runtime_variant fitsSeq fitsTsMs (by rfl) _).trans ?_
    simp [EventPayload.kind, EventKind.kindName, readVariant, EventPayload.toRuntime,
      Codec.required, Codec.optional, List.lookup_cons, windowId.reads _ fits.1,
      windowId.found_written fits.2]
  | titleChanged event =>
    have title := Codec.text.found_written (a := event.title) fun _ _ => trivial
    refine (runtime_variant fitsSeq fitsTsMs (by rfl) _).trans ?_
    simp [EventPayload.kind, EventKind.kindName, readVariant, EventPayload.toRuntime,
      Codec.required, Codec.optional, List.lookup_cons, windowId.reads _ fits, title]
  | surfaceCommit event =>
    obtain ⟨window, commitSeq, damage⟩ := fits
    refine (runtime_variant fitsSeq fitsTsMs (by rfl) _).trans ?_
    simp [EventPayload.kind, EventKind.kindName, readVariant, EventPayload.toRuntime,
      Codec.required, List.lookup_cons, windowId.reads _ window, u64.reads _ commitSeq,
      region.reads _ damage]
  | focusChanged event =>
    refine (runtime_variant fitsSeq fitsTsMs (by rfl) _).trans ?_
    simp [EventPayload.kind, EventKind.kindName, readVariant, EventPayload.toRuntime,
      Codec.optional, windowId.found_written fits]
  | popupAppeared event =>
    refine (runtime_variant fitsSeq fitsTsMs (by rfl) _).trans ?_
    simp [EventPayload.kind, EventKind.kindName, readVariant, EventPayload.toRuntime,
      Codec.required, List.lookup_cons, windowId.reads _ fits.1, u64.reads _ fits.2]
  | popupDisappeared event =>
    refine (runtime_variant fitsSeq fitsTsMs (by rfl) _).trans ?_
    simp [EventPayload.kind, EventKind.kindName, readVariant, EventPayload.toRuntime,
      Codec.required, List.lookup_cons, windowId.reads _ fits.1, u64.reads _ fits.2]
  | appLaunched event =>
    have app := appId.reads event.appId trivial
    refine (runtime_variant fitsSeq fitsTsMs (by rfl) _).trans ?_
    simp [EventPayload.kind, EventKind.kindName, readVariant, EventPayload.toRuntime,
      Codec.required, Codec.optional, List.lookup_cons, launchId.reads _ fits.1, app,
      i32.found_written fits.2]
  | notification event =>
    refine (runtime_variant fitsSeq fitsTsMs (by rfl) _).trans ?_
    simp [EventPayload.kind, EventKind.kindName, readVariant, EventPayload.toRuntime,
      Codec.required, notification.reads _ fits]
  | notificationClosed event =>
    have reason := closeReason.reads event.reason trivial
    refine (runtime_variant fitsSeq fitsTsMs (by rfl) _).trans ?_
    simp [EventPayload.kind, EventKind.kindName, readVariant, EventPayload.toRuntime,
      Codec.required, List.lookup_cons, notificationId.reads _ fits, reason]
  | notificationAction event =>
    refine (runtime_variant fitsSeq fitsTsMs (by rfl) _).trans ?_
    simp [EventPayload.kind, EventKind.kindName, readVariant, EventPayload.toRuntime,
      Codec.required, List.lookup_cons, notificationId.reads _ fits]
  | quiet event => exact absurd rfl runtime.1
  | inspectFrame event => exact absurd rfl runtime.2

/-! ## Reading back a frame -/

theorem data_solid (images : ImageCodec Image) (payload : EventPayload Image) :
    payload.toData images ≠ .null := by
  cases payload with
  | _ => exact Value.noConfusion

theorem data_of_found {members : List (String × Value)} {data : Value}
    (found : members.lookup "data" = some data) (solid : data ≠ .null) :
    EventFrame.dataOf members = data := by
  unfold EventFrame.dataOf
  rw [found]
  cases data with
  | null => exact absurd rfl solid
  | _ => rfl

variable {text : Text Line} {images : ImageCodec Image} {frame : EventFrame Image}

theorem frame_held (fits : frame.Fits) (typed : frame.data.kind ≠ .inspectFrame) :
    (frame.toValue images).Held recursionLimit := by
  refine .object (ascending ["data", "event", "seq", "ts_ms"] rfl (by decide)) ?_
  have data := EventPayload.data_held images fits.data typed
  have sequence : (u64.encode frame.seq).Held (recursionLimit - 1) :=
    u64.held _ fits.seq (Nat.zero_le _)
  have time : (u64.encode frame.tsMs).Held (recursionLimit - 1) :=
    u64.held _ fits.tsMs (Nat.zero_le _)
  have name : (Value.string frame.event.kindName).Held (recursionLimit - 1) := .string _
  intro entry member
  simp only [List.mem_cons, List.not_mem_nil, or_false] at member
  rcases member with rfl | rfl | rfl | rfl
  · exact data
  · exact name
  · exact sequence
  · exact time

/-- The frame of an inspector's picture is nested no deeper than the parser follows. -/
theorem inspect_nested (inspect : frame.data.kind = .inspectFrame) :
    (frame.toValue images).Nested recursionLimit := by
  cases data : frame.data with
  | inspectFrame event =>
    have picture : (frame.data.toData images).Nested (recursionLimit - 1) := by
      rw [data]
      refine .object fun entry member => ?_
      simp only [List.mem_cons, List.not_mem_nil, or_false] at member
      rcases member with rfl | rfl
      · exact images.nested event.image
      · exact .number _
    refine .object fun entry member => ?_
    simp only [List.mem_cons, List.not_mem_nil, or_false] at member
    rcases member with rfl | rfl | rfl | rfl
    · exact picture
    · exact .string _
    · exact .number _
    · exact .number _
  | _ =>
    rw [data] at inspect
    cases inspect

theorem from_value (fits : frame.Fits) (named : frame.event = frame.data.kind)
    (typed : frame.data.kind ≠ .inspectFrame) :
    EventFrame.fromValue images (frame.toValue images) = .ok frame := by
  have sequence := u64.reads _ fits.seq
  have time := u64.reads _ fits.tsMs
  have payload := EventPayload.from_data images fits.data typed
  have data : EventFrame.dataOf [("data", frame.data.toData images),
      ("event", .string frame.event.kindName), ("seq", u64.encode frame.seq),
      ("ts_ms", u64.encode frame.tsMs)] = frame.data.toData images :=
    data_of_found List.lookup_cons_self (data_solid images frame.data)
  rw [← named] at payload
  simp [EventFrame.fromValue, EventFrame.toValue, Codec.required, List.lookup_cons, sequence, time, data,
    payload, Except.map]

/-- A typed frame is received as the client's event of its own raw event. -/
theorem received_typed (fits : frame.Fits) (named : frame.event = frame.data.kind)
    (typed : frame.data.kind ≠ .inspectFrame) :
    received text images (text.print (frame.toValue images)) =
      some (agpEventFromRaw images (fromFrame images frame)) := by
  unfold received decodeLine
  rw [text.reads _ (frame_held fits typed)]
  simp only [from_value fits named typed, Option.map_some]

/-- Three names are never those of a runtime event. -/
theorem no_runtime {raw : RawEvent} (name : raw.name = "inspect_frame" ∨ raw.name = "quiet") :
    (agpEventFromRaw images raw).runtime? = none := by
  obtain ⟨_, seq, tsMs, data⟩ := raw
  rcases name with rfl | rfl
  · simp only [agpEventFromRaw]
    split
    · split
      · split
        · rfl
        · rfl
      · rfl
    · rfl
  · simp only [agpEventFromRaw]
    split
    · rfl
    · rfl

theorem agp_runtime {raw : RawEvent} {kind : EventKind} (name : raw.name = kind.kindName)
    (runtime : kind ≠ .quiet ∧ kind ≠ .inspectFrame) (emitted : kind ≠ .surfaceDamage)
    {event : RuntimeEvent} (reads : runtimeEvent raw = some event) :
    agpEventFromRaw images raw = .runtime event := by
  unfold agpEventFromRaw
  rw [name]
  cases kind with
  | quiet => exact absurd rfl runtime.1
  | inspectFrame => exact absurd rfl runtime.2
  | surfaceDamage => exact absurd rfl emitted
  | _ => simp [EventKind.kindName, reads]

theorem kind_emitted (payload : EventPayload Image) : payload.kind ≠ .surfaceDamage := by
  cases payload with
  | _ => exact EventKind.noConfusion

theorem runtime_some {payload : EventPayload Image}
    (runtime : payload.kind ≠ .quiet ∧ payload.kind ≠ .inspectFrame) (seq tsMs : ℕ) :
    ∃ event, payload.toRuntime seq tsMs = some event := by
  cases payload with
  | quiet event => exact absurd rfl runtime.1
  | inspectFrame event => exact absurd rfl runtime.2
  | _ => exact ⟨_, rfl⟩

/-- A frame of a runtime kind is received as its runtime event. -/
theorem received_runtime (text : Text Line) (images : ImageCodec Image) (fits : frame.Fits)
    (named : frame.event = frame.data.kind)
    (runtime : frame.data.kind ≠ .quiet ∧ frame.data.kind ≠ .inspectFrame) :
    ∃ event, frame.toRuntime = some event ∧
      received text images (text.print (frame.toValue images)) = some (.runtime event) := by
  obtain ⟨event, same⟩ := runtime_some runtime frame.seq frame.tsMs
  refine ⟨event, same, ?_⟩
  have read := runtime_event images fits.data runtime fits.seq fits.tsMs
  rw [received_typed fits named runtime.2]
  refine congrArg some (agp_runtime (congrArg EventKind.kindName named) runtime
    (kind_emitted frame.data) ?_)
  unfold fromFrame
  rw [named, read, same]

theorem read_event {members : List (String × Value)} {name : String}
    (event : members.lookup "event" = some (.string name)) {read : EventFrame Image}
    (strict : EventFrame.fromValue images (.object members) = .ok read) :
    EventKind.ofName name = some read.event := by
  simp only [EventFrame.fromValue, event] at strict
  split at strict
  · cases strict
  · next kind known =>
    rw [known]
    split at strict
    · cases strict
    · split at strict
      · cases strict
      · cases payload : EventPayload.fromData images kind (EventFrame.dataOf members) with
        | error error =>
          rw [payload] at strict
          cases strict
        | ok data =>
          rw [payload] at strict
          cases strict
          rfl

/-- A line that is read as an inspector's frame carries no runtime event. -/
theorem inspect_unread {members : List (String × Value)}
    (event : members.lookup "event" = some (.string "inspect_frame")) {line : Line}
    (parsed : text.parse line = some (.object members)) :
    (received text images line).bind AgpEvent.runtime? = none := by
  unfold received decodeLine
  rw [parsed]
  simp only
  cases strict : EventFrame.fromValue images (.object members) with
  | ok read =>
    have kind := read_event event strict
    have inspect : read.event = .inspectFrame := (Option.some.inj kind).symm
    refine no_runtime (Or.inl ?_)
    show read.event.kindName = _
    rw [inspect]
    rfl
  | error error =>
    cases lenient : lenientEvent (.object members) with
    | none => rfl
    | some raw =>
      refine no_runtime (Or.inl ?_)
      simp only [lenientEvent, event, Option.bind_eq_bind] at lenient
      obtain ⟨seq, _, lenient⟩ := Option.bind_eq_some_iff.mp lenient
      obtain ⟨tsMs, _, lenient⟩ := Option.bind_eq_some_iff.mp lenient
      cases lenient
      rfl

/-- Every runtime event is received as it was sent, and a frame that is named after its payload
gives the client the runtime event that it stands for, if any. -/
theorem events_read_back (text : Text Line) (images : ImageCodec Image) :
    (∀ event : RuntimeEvent, (EventFrame.fromRuntime event : EventFrame Image).Fits →
      received text images (text.print ((EventFrame.fromRuntime event).toValue images)) =
        some (.runtime event)) ∧
    ∀ frame : EventFrame Image, frame.Fits → frame.event = frame.data.kind →
      (received text images (text.print (frame.toValue images))).bind AgpEvent.runtime? =
        frame.toRuntime := by
  constructor
  · intro event fits
    have runtime : (EventFrame.fromRuntime event : EventFrame Image).data.kind ≠ .quiet ∧
        (EventFrame.fromRuntime event : EventFrame Image).data.kind ≠ .inspectFrame := by
      cases event with
      | _ => exact ⟨EventKind.noConfusion, EventKind.noConfusion⟩
    obtain ⟨same, sent, read⟩ :=
      received_runtime text images fits (EventFrame.from_runtime_kind event) runtime
    rw [EventFrame.to_from_runtime] at sent
    rw [read, Option.some.inj sent]
  · intro frame fits named
    by_cases quiet : frame.data.kind = .quiet
    · rw [received_typed fits named (quiet ▸ EventKind.noConfusion), Option.bind_some]
      have unread : frame.toRuntime = none := by
        cases data : frame.data with
        | quiet event => rw [EventFrame.toRuntime, data]; rfl
        | _ =>
          rw [data] at quiet
          cases quiet
      rw [unread]
      refine no_runtime (Or.inr ?_)
      show frame.event.kindName = _
      rw [named, quiet]
      rfl
    · by_cases inspect : frame.data.kind = .inspectFrame
      · have ascending : Ascending [("data", frame.data.toData images),
            ("event", .string frame.event.kindName), ("seq", u64.encode frame.seq),
            ("ts_ms", u64.encode frame.tsMs)] :=
          ascending ["data", "event", "seq", "ts_ms"] rfl (by decide)
        obtain ⟨read, parsed, texts⟩ := text.readsTexts _ ascending (inspect_nested inspect)
        have event : read.lookup "event" = some (.string "inspect_frame") := by
          refine texts "event" "inspect_frame" ?_
          rw [named, inspect]
          rfl
        rw [EventFrame.toValue, inspect_unread event parsed]
        cases data : frame.data with
        | inspectFrame event => rw [EventFrame.toRuntime, data]; rfl
        | _ =>
          rw [data] at inspect
          cases inspect
      · obtain ⟨event, same, read⟩ :=
          received_runtime text images fits named ⟨quiet, inspect⟩
        rw [read, same]
        rfl

/-- Lines by the trees that they stand for. -/
def tree : Text Value where
  print := id
  parse := some
  reads _ _ := rfl
  readsTexts members _ _ := ⟨members, rfl, fun _ _ found => found⟩

/-- Images that are texts. -/
def textImages : ImageCodec String := ⟨.string, Codec.text.decode, fun image => .string image⟩

def damaged : RuntimeEvent :=
  .surfaceCommit 8291 51234 ⟨17⟩ 8291 ⟨[⟨630, 220, 410, 180⟩], by decide⟩

theorem commit_read_back :
    received tree textImages (tree.print ((EventFrame.fromRuntime damaged).toValue textImages)) =
      some (.runtime damaged) := by
  have rects : region.Fits ⟨[⟨630, 220, 410, 180⟩], by decide⟩ := by
    intro rect member
    rw [List.mem_singleton.mp member]
    exact ⟨(i32_fits _).mpr (by decide), (i32_fits _).mpr (by decide),
      (u32_fits _).mpr (by decide), (u32_fits _).mpr (by decide)⟩
  exact (events_read_back tree textImages).1 damaged
    ⟨(u64_fits _).mpr (by decide), (u64_fits _).mpr (by decide),
      (u64_fits _).mpr (by decide), (u64_fits _).mpr (by decide), rects⟩

/-- A frame that is named after the appearance of a popup and carries its disappearance. -/
def misnamed : EventFrame String :=
  ⟨.popupAppeared, 12, 40, .popupDisappeared ⟨⟨3⟩, 5⟩⟩

/-- The client goes by the name of the frame, and the frame by its payload. -/
theorem misnamed_misread :
    misnamed.Fits ∧
      (received tree textImages (tree.print (misnamed.toValue textImages))).bind
          AgpEvent.runtime? = some (.popupAppeared 12 40 ⟨3⟩ 5) ∧
      misnamed.toRuntime = some (.popupDisappeared 12 40 ⟨3⟩ 5) := by
  refine ⟨⟨(u64_fits _).mpr (by decide), (u64_fits _).mpr (by decide),
    (u64_fits _).mpr (by decide), (u64_fits _).mpr (by decide)⟩, ?_, rfl⟩
  decide +kernel

end ADesk.Client.RawEvents
