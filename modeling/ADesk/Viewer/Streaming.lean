/- ADesk/Viewer/Streaming
   digest: A change wakes one session: which desktop changes still owe each session a frame, and
   the wakeups that another session takes. -/

import ADesk.Foundation.Entries
import ADesk.Viewer.Session

set_option autoImplicit false

namespace ADesk.Viewer.Streaming

open ADesk.Core.Event (RuntimeEvent)
open ADesk.Foundation.Broadcast
open ADesk.Foundation.Entries
open ADesk.Foundation.Execution
open ADesk.Foundation.NotifyOne
open ADesk.Viewer.Session
open scoped List

/-! ## What a session is owed -/

/-- The event at this position changed the desktop while the session was attached, and no frame
rendered after it was streamed. -/
def Unseen (s : State) (viewer : Attached) (change : ℕ) : Prop :=
  viewer.phase ≠ .closed ∧ viewer.attachedAt ≤ change ∧ viewer.shown ≤ change ∧
    (s.channel.sent[change]?).any isDesktopChange = true

instance (s : State) (viewer : Attached) (change : ℕ) : Decidable (Unseen s viewer change) :=
  inferInstanceAs (Decidable (_ ∧ _ ∧ _ ∧ _))

/-- The session itself comes to a frame that shows the change: it was woken, waits for its pacing
deadline, or renders. -/
def onWay (woken : List ℕ) (id : ℕ) (viewer : Attached) (change : ℕ) : Bool :=
  match viewer.phase with
  | .selecting | .handling => viewer.pending
  | .parked => viewer.pending || woken.contains id
  | .deciding | .rendering _ => true
  | .writing _ frame => frame.any (change < ·)
  | .closed => false

/-- The change is still queued for the pump, owed by it, stored as the permit, or on its way in
the session. -/
def Owed (s : State) (id : ℕ) (viewer : Attached) (change : ℕ) : Prop :=
  s.cursor.next ≤ change ∨ s.owes = true ∨ s.signal.permit = true ∨
    onWay s.signal.woken id viewer change = true

/-- Neither the pump nor the session moves again unless something new happens: only a message of
the viewer or the end of the session is left, however much time passes. -/
def AtRest (s : State) (id : ℕ) : Prop :=
  step s .pumpRecv = none ∧ step s .pumpNotify = none ∧
    ∀ act, act ≠ .other → act ≠ .close → ∀ nanos,
      step { s with now := s.now + nanos } (.session id act) = none

/-! ## The wakeups that another session takes -/

/-- The session does not get the wakeup or the frame of the step: the pump wakes another session,
another session takes the permit, it passes its own wakeup on to handle a message, or its
rendering fails. -/
def losing (s : State) (id : ℕ) : Label → Bool
  | .pumpNotify => s.signal.waiting.head?.any (· ≠ id)
  | .session taker .poll => s.signal.permit && decide (taker ≠ id)
  | .session giver .other =>
    decide (giver = id) && s.signal.woken.contains id && !s.signal.waiting.isEmpty
  | .session failed .fail => decide (failed = id)
  | _ => false

/-- What the step leaves still brings the change to the session. -/
def spared (s : State) (id : ℕ) (viewer : Attached) (change : ℕ) : Label → Bool
  | .pumpNotify => onWay s.signal.woken id viewer change
  | .session _ .poll => s.owes || onWay s.signal.woken id viewer change
  | .session _ .other => s.owes || viewer.pending
  | .session _ .fail => s.owes || s.signal.permit
  | _ => true

/-- No session loses its only way to a change that it has not seen and the pump has received. -/
def Shared (s : State) (label : Label) : Prop :=
  ∀ id < s.sessions.length, ∀ viewer ∈ s.sessions[id]?, losing s id label = true →
    ∀ change < s.cursor.next, Unseen s viewer change → spared s id viewer change label = true

instance (s : State) (label : Label) : Decidable (Shared s label) :=
  inferInstanceAs (Decidable (∀ id < _, ∀ viewer ∈ _, _ → ∀ change < _, _ → _))

/-! ## Sessions and the signal they wait on -/

/-- The sessions that wait on the signal are the parked ones, each once, and the pump has not
overtaken the channel. -/
structure Registered (s : State) : Prop where
  received : s.cursor.next ≤ s.channel.sent.length
  once : s.signal.waiters.Nodup
  parked : ∀ id, id ∈ s.signal.waiters ↔
    ∃ viewer ∈ s.sessions[id]?, viewer.phase = .parked

theorem drop_wait_parked {signal : Signal ℕ} {id : ℕ} {viewer : Attached}
    (parked : viewer.phase = .parked) : dropWait signal id viewer = signal.cancel id := by
  rw [dropWait, if_pos parked]

theorem drop_wait_awake {signal : Signal ℕ} {id : ℕ} {viewer : Attached}
    (awake : viewer.phase ≠ .parked) : dropWait signal id viewer = signal := by
  rw [dropWait, if_neg awake]

/-- What a session does to the list of waiters, beside its own phase. -/
inductive Rewaited (s : State) (id : ℕ) (viewer : Attached) (signal : Signal ℕ)
    (after : Attached) : Prop
  | same (waiters : signal.waiters = s.signal.waiters) (asleep : viewer.phase ≠ .parked)
      (awake : after.phase ≠ .parked)
  | joined (waiters : signal.waiters ~ id :: s.signal.waiters) (asleep : viewer.phase ≠ .parked)
      (parked : after.phase = .parked)
  | left (waiters : signal.waiters ~ s.signal.waiters.erase id) (parked : viewer.phase = .parked)
      (awake : after.phase ≠ .parked)

/-- Leaving the select drops the wait. -/
theorem rewaited_drop {s : State} {id : ℕ} {viewer after : Attached} (registered : Registered s)
    (present : s.sessions[id]? = some viewer) (awake : after.phase ≠ .parked) :
    Rewaited s id viewer (dropWait s.signal id viewer) after := by
  by_cases parked : viewer.phase = .parked
  · have member : id ∈ s.signal.waiters := (registered.parked id).mpr ⟨viewer, present, parked⟩
    refine .left ?_ parked awake
    rw [drop_wait_parked parked]
    exact Signal.cancel_waiters member
  · refine .same ?_ parked awake
    rw [drop_wait_awake parked]

theorem rewaited_of_moved {s : State} {id : ℕ} {viewer after : Attached} {act : Act}
    {signal : Signal ℕ} (registered : Registered s) (present : s.sessions[id]? = some viewer)
    (moved : Moved s id viewer act signal after) : Rewaited s id viewer signal after := by
  cases moved with
  | took selecting stored =>
    obtain ⟨_, _, waiting, woken⟩ := Signal.poll_taken stored id
    refine .same ?_ (by simp [selecting]) nofun
    rw [Signal.waiters, Signal.waiters, waiting, woken]
  | parked selecting absent => exact .joined (Signal.poll_waiters absent id) (by simp [selecting]) rfl
  | woken waits member => exact .left (Signal.complete_waiters member) waits nofun
  | pushed deciding => exact .same rfl (by simp [deciding]) nofun
  | postponed deciding => exact .same rfl (by simp [deciding]) nofun
  | flushed => exact rewaited_drop registered present nofun
  | left => exact rewaited_drop registered present nofun
  | handled handling => exact .same rfl (by simp [handling]) nofun
  | rendered rendering => exact .same rfl (by simp [rendering]) nofun
  | failed rendering => exact .same rfl (by simp [rendering]) nofun
  | written writing => exact .same rfl (by simp [writing]) nofun
  | closed => exact rewaited_drop registered present nofun

/-- A receive moves the pump to a position the channel has reached, and the pump owes a
notification for every change on the way. -/
theorem pump_recv_cases {s t : State} (taken : step s .pumpRecv = some t) :
    s.owes = false ∧ ∃ cursor owes, t = { s with cursor := cursor, owes := owes } ∧
      cursor.next ≤ s.channel.sent.length ∧
      ∀ change, s.cursor.next ≤ change → change < cursor.next →
        (s.channel.sent[change]?).any isDesktopChange = true → owes = true := by
  simp only [step, pumpRecv] at taken
  split at taken
  · cases taken
  next free =>
    refine ⟨Bool.eq_false_iff.mpr free, ?_⟩
    split at taken
    · next missed cursor lagged =>
      cases taken
      exact ⟨cursor, true, rfl, (recv_lagged lagged).2, fun _ _ _ _ => rfl⟩
    · next event cursor value =>
      cases taken
      obtain ⟨found, next⟩ := recv_value value
      obtain ⟨bound, _⟩ := List.getElem?_eq_some_iff.mp found
      refine ⟨cursor, isDesktopChange event, rfl, by omega, fun change from_cursor before changed => ?_⟩
      have position : change = s.cursor.next := by omega
      rw [position, found] at changed
      exact changed
    · cases taken

theorem registered_session {s : State} {id : ℕ} {viewer after : Attached} {signal : Signal ℕ}
    (registered : Registered s) (present : s.sessions[id]? = some viewer)
    (rewaited : Rewaited s id viewer signal after) :
    Registered { s with signal := signal, sessions := s.sessions.set id after } := by
  have parked_iff : ∀ other, (∃ entry ∈ (s.sessions.set id after)[other]?, entry.phase = .parked) ↔
      (other = id ∧ after.phase = .parked) ∨ (other ≠ id ∧ other ∈ s.signal.waiters) := by
    intro other
    rw [registered.parked other]
    constructor
    · rintro ⟨entry, found, parked⟩
      rcases (set_entry present other entry).mp found with ⟨same, rfl⟩ | ⟨distinct, kept⟩
      · exact Or.inl ⟨same, parked⟩
      · exact Or.inr ⟨distinct, entry, kept, parked⟩
    · rintro (⟨same, parked⟩ | ⟨distinct, entry, kept, parked⟩)
      · exact ⟨after, (set_entry present other after).mpr (Or.inl ⟨same, rfl⟩), parked⟩
      · exact ⟨entry, (set_entry present other entry).mpr (Or.inr ⟨distinct, kept⟩), parked⟩
  have own : id ∈ s.signal.waiters ↔ viewer.phase = .parked := by
    rw [registered.parked id]
    exact ⟨fun ⟨entry, found, parked⟩ => Option.some.inj (found.symm.trans present) ▸ parked,
      fun parked => ⟨viewer, present, parked⟩⟩
  cases rewaited with
  | same waiters asleep awake =>
    refine ⟨registered.received, waiters ▸ registered.once, fun other => ?_⟩
    rw [parked_iff, waiters]
    have outside : id ∉ s.signal.waiters := fun member => asleep (own.mp member)
    grind
  | joined waiters asleep parked =>
    have outside : id ∉ s.signal.waiters := fun member => asleep (own.mp member)
    refine ⟨registered.received, waiters.nodup_iff.mpr (List.nodup_cons.mpr ⟨outside, registered.once⟩),
      fun other => ?_⟩
    rw [parked_iff, waiters.mem_iff, List.mem_cons]
    grind
  | left waiters parked awake =>
    refine ⟨registered.received, waiters.nodup_iff.mpr (registered.once.erase id), fun other => ?_⟩
    rw [parked_iff, waiters.mem_iff, registered.once.mem_erase_iff]
    grind

theorem registered_of_reachable {slots : ℕ} {allowed : State → Label → Prop} {s : State}
    (reached : Reachable (machine slots) allowed s) : Registered s := by
  induction reached with
  | start =>
    refine ⟨Nat.le_refl _, List.nodup_nil, fun id => ?_⟩
    simp [machine, State.new, Signal.new, Signal.waiters]
  | @next before after label _ _ taken registered =>
    cases label with
    | tick nanos =>
      cases taken
      exact ⟨registered.received, registered.once, registered.parked⟩
    | emit event =>
      cases taken
      refine ⟨Nat.le_trans registered.received ?_, registered.once, registered.parked⟩
      simp [Channel.send]
    | pumpRecv =>
      obtain ⟨_, cursor, owes, rfl, bound, _⟩ := pump_recv_cases taken
      exact ⟨bound, registered.once, registered.parked⟩
    | pumpNotify =>
      obtain ⟨_, same⟩ := Option.ite_none_right_eq_some.mp taken
      cases same
      have waiters := Signal.notify_waiters before.signal
      exact ⟨registered.received, waiters.nodup_iff.mpr registered.once,
        fun id => waiters.mem_iff.trans (registered.parked id)⟩
    | attach minIntervalMs =>
      cases taken
      refine ⟨registered.received, registered.once, fun id => (registered.parked id).trans ?_⟩
      constructor
      · rintro ⟨viewer, present, parked⟩
        exact ⟨viewer, (append_entry _ _ id viewer).mpr (Or.inl present), parked⟩
      · rintro ⟨viewer, present, parked⟩
        rcases (append_entry _ _ id viewer).mp present with kept | ⟨_, rfl⟩
        · exact ⟨viewer, kept, parked⟩
        · cases parked
    | session id act =>
      obtain ⟨viewer, signal, entry, present, moved, rfl⟩ := session_step taken
      exact registered_session registered present (rewaited_of_moved registered present moved)

/-! ## The changes that owe a frame -/

/-- Every session is owed a frame for every change it has not seen. -/
def Followed (s : State) : Prop :=
  ∀ id viewer, s.sessions[id]? = some viewer → ∀ change, Unseen s viewer change →
    Owed s id viewer change

theorem on_way_woken {woken : List ℕ} {id : ℕ} {viewer : Attached} {change : ℕ}
    (parked : viewer.phase = .parked) (member : id ∈ woken) :
    onWay woken id viewer change = true := by
  simp [onWay, parked, member]

/-- Only the wakeup of the session itself matters to it. -/
theorem on_way_mono {woken later : List ℕ} {id : ℕ} {viewer : Attached} {change : ℕ}
    (kept : id ∈ woken → id ∈ later) (coming : onWay woken id viewer change = true) :
    onWay later id viewer change = true := by
  unfold onWay at coming ⊢
  cases phase : viewer.phase with
  | parked =>
    simp only [phase, Bool.or_eq_true, List.contains_iff_mem] at coming ⊢
    exact Or.imp_right kept coming
  | deciding | rendering => rfl
  | selecting | handling | writing | closed =>
    rw [phase] at coming
    exact coming

/-- A change that has not been seen has been sent. -/
theorem Unseen.sent {s : State} {viewer : Attached} {change : ℕ} (unseen : Unseen s viewer change) :
    change < s.channel.sent.length := by
  by_contra beyond
  have changed := unseen.2.2.2
  rw [List.getElem?_eq_none (Nat.le_of_not_lt beyond)] at changed
  cases changed

theorem followed_emit {s : State} (registered : Registered s) (followed : Followed s)
    (event : RuntimeEvent) : Followed { s with channel := s.channel.send event } := by
  intro id viewer present change unseen
  by_cases fresh : s.channel.sent.length ≤ change
  · exact Or.inl (Nat.le_trans registered.received fresh)
  · have old : Unseen s viewer change := by
      refine ⟨unseen.1, unseen.2.1, unseen.2.2.1, ?_⟩
      have changed := unseen.2.2.2
      rwa [Channel.send, List.getElem?_append_left (Nat.lt_of_not_le fresh)] at changed
    exact followed id viewer present change old

theorem followed_recv {s t : State} (followed : Followed s) (taken : step s .pumpRecv = some t) :
    Followed t := by
  obtain ⟨free, cursor, owes, rfl, _, received⟩ := pump_recv_cases taken
  intro id viewer present change unseen
  rcases followed id viewer present change unseen with queued | owed | stored | coming
  · by_cases passed : change < cursor.next
    · exact Or.inr (Or.inl (received change queued passed unseen.2.2.2))
    · exact Or.inl (Nat.le_of_not_lt passed)
  · rw [free] at owed
    cases owed
  · exact Or.inr (Or.inr (Or.inl stored))
  · exact Or.inr (Or.inr (Or.inr coming))

/-- The wakeup of the pump goes to the oldest waiter, which is parked. -/
theorem followed_notify {s : State} (registered : Registered s) (shared : Shared s .pumpNotify) :
    Followed { s with owes := false, signal := s.signal.notify } := by
  intro id viewer present change unseen
  rcases s.signal.notify_cases with ⟨_, stored, _, _⟩ | ⟨next, rest, queue, _, _, woken⟩
  · exact Or.inr (Or.inr (Or.inl stored))
  · by_cases receiver : id = next
    · have waits : id ∈ s.signal.waiters := by simp [Signal.waiters, queue, receiver]
      obtain ⟨entry, found, parked⟩ := (registered.parked id).mp waits
      obtain rfl : entry = viewer := Option.some.inj (found.symm.trans present)
      refine Or.inr (Or.inr (Or.inr (on_way_woken parked ?_)))
      simp [woken, receiver]
    · by_cases queued : s.cursor.next ≤ change
      · exact Or.inl queued
      · obtain ⟨bound, _⟩ := List.getElem?_eq_some_iff.mp present
        have loses : losing s id .pumpNotify = true := by
          simp [losing, queue, Ne.symm receiver]
        have coming := shared id bound viewer present loses change (Nat.lt_of_not_le queued) unseen
        refine Or.inr (Or.inr (Or.inr (on_way_mono (fun member => ?_) coming)))
        rw [woken]
        exact List.mem_append_left _ member

theorem followed_attach {s : State} (followed : Followed s) (minIntervalMs : ℕ) :
    Followed { s with
      sessions := s.sessions ++ [Attached.attach minIntervalMs s.channel.sent.length] } := by
  intro id viewer present change unseen
  rcases (append_entry _ _ id viewer).mp present with kept | ⟨_, rfl⟩
  · exact followed id viewer kept change unseen
  · exact absurd unseen.sent (Nat.not_lt_of_le unseen.2.1)

/-! ### One session moves -/

/-- Dropping a wait keeps the permit and the wakeups of the other sessions. -/
theorem drop_wait_keeps (signal : Signal ℕ) (id : ℕ) (viewer : Attached) :
    (signal.permit = true → (dropWait signal id viewer).permit = true) ∧
      ∀ other, other ≠ id → other ∈ signal.woken →
        other ∈ (dropWait signal id viewer).woken := by
  by_cases parked : viewer.phase = .parked
  · rw [drop_wait_parked parked, Signal.cancel]
    split
    · have kept : ∀ other, other ≠ id → other ∈ signal.woken →
          other ∈ (signal.complete id).woken := fun other distinct member =>
        (List.mem_erase_of_ne distinct).mpr member
      rcases (signal.complete id).notify_cases with ⟨_, stored, _, woken⟩ |
        ⟨next, rest, queue, _, _, woken⟩
      · rw [stored, woken]
        exact ⟨fun _ => rfl, kept⟩
      · rw [woken]
        refine ⟨fun stored => ?_, fun other distinct member =>
          List.mem_append_left _ (kept other distinct member)⟩
        rw [(signal.complete id).alone stored] at queue
        cases queue
    · exact ⟨fun stored => stored, fun _ _ member => member⟩
  · rw [drop_wait_awake parked]
    exact ⟨fun stored => stored, fun _ _ member => member⟩

/-- A session that moves takes nothing from another one, unless it takes the permit. -/
theorem moved_keeps {s : State} {id : ℕ} {viewer after : Attached} {act : Act}
    {signal : Signal ℕ} (moved : Moved s id viewer act signal after) :
    (s.signal.permit = true → signal.permit = true ∨ act = .poll) ∧
      ∀ other, other ≠ id → other ∈ s.signal.woken → other ∈ signal.woken := by
  have dropped : (s.signal.permit = true → (dropWait s.signal id viewer).permit = true ∨ act = .poll) ∧
      ∀ other, other ≠ id → other ∈ s.signal.woken → other ∈ (dropWait s.signal id viewer).woken :=
    ⟨fun stored => Or.inl ((drop_wait_keeps s.signal id viewer).1 stored),
      (drop_wait_keeps s.signal id viewer).2⟩
  have kept : (s.signal.permit = true → s.signal.permit = true ∨ act = .poll) ∧
      ∀ other, other ≠ id → other ∈ s.signal.woken → other ∈ s.signal.woken :=
    ⟨Or.inl, fun _ _ member => member⟩
  cases moved with
  | took _ stored =>
    obtain ⟨_, _, _, woken⟩ := Signal.poll_taken stored id
    exact ⟨fun _ => Or.inr rfl, fun _ _ member => woken ▸ member⟩
  | parked _ absent =>
    obtain ⟨_, _, _, woken⟩ := Signal.poll_registered absent id
    exact ⟨fun _ => Or.inr rfl, fun _ _ member => woken ▸ member⟩
  | woken => exact ⟨Or.inl, fun other distinct member => (List.mem_erase_of_ne distinct).mpr member⟩
  | flushed | left | closed => exact dropped
  | pushed | postponed | handled | rendered | failed | written => exact kept

theorem owed_other {s : State} {id other : ℕ} {viewer after entry : Attached} {act : Act}
    {signal : Signal ℕ} (followed : Followed s) (shared : Shared s (.session id act))
    (moved : Moved s id viewer act signal after) (distinct : other ≠ id)
    (present : s.sessions[other]? = some entry) {change : ℕ} (unseen : Unseen s entry change) :
    s.cursor.next ≤ change ∨ s.owes = true ∨ signal.permit = true ∨
      onWay signal.woken other entry change = true := by
  obtain ⟨permit, woken⟩ := moved_keeps moved
  have coming_kept : onWay s.signal.woken other entry change = true →
      onWay signal.woken other entry change = true := on_way_mono (woken other distinct)
  rcases followed other entry present change unseen with queued | owed | stored | coming
  · exact Or.inl queued
  · exact Or.inr (Or.inl owed)
  · rcases permit stored with kept | rfl
    · exact Or.inr (Or.inr (Or.inl kept))
    · -- the permit is taken
      by_cases queued : s.cursor.next ≤ change
      · exact Or.inl queued
      · obtain ⟨bound, _⟩ := List.getElem?_eq_some_iff.mp present
        have loses : losing s other (.session id .poll) = true := by
          simp [losing, stored, Ne.symm distinct]
        have left := shared other bound entry present loses change (Nat.lt_of_not_le queued) unseen
        rcases Bool.or_eq_true _ _ ▸ left with owed | coming
        · exact Or.inr (Or.inl owed)
        · exact Or.inr (Or.inr (Or.inr (coming_kept coming)))
  · exact Or.inr (Or.inr (Or.inr (coming_kept coming)))

/-- A session in its select either waits for its deadline or was woken. -/
theorem on_way_select {woken : List ℕ} {id : ℕ} {viewer : Attached} {change : ℕ}
    (selects : viewer.inSelect = true) (coming : onWay woken id viewer change = true) :
    viewer.pending = true ∨ (viewer.phase = .parked ∧ id ∈ woken) := by
  rcases Bool.or_eq_true _ _ ▸ selects with phase | phase
  · rw [decide_eq_true_iff] at phase
    rw [onWay, phase] at coming
    exact Or.inl coming
  · rw [decide_eq_true_iff] at phase
    rw [onWay, phase] at coming
    rcases Bool.or_eq_true _ _ ▸ coming with pending | member
    · exact Or.inl pending
    · exact Or.inr ⟨phase, List.contains_iff_mem.mp member⟩

/-- What a session that leaves its select for a message leaves behind when it was woken: the
permit, or a wakeup for the oldest waiter. -/
theorem cancel_woken {s : State} {id : ℕ} (member : id ∈ s.signal.woken) :
    (s.signal.cancel id).permit = true ∨ s.signal.waiting ≠ [] := by
  rw [Signal.cancel, if_pos member]
  rcases (s.signal.complete id).notify_cases with ⟨_, stored, _⟩ | ⟨next, rest, queue, _⟩
  · exact Or.inl stored
  · refine Or.inr fun nobody => ?_
    rw [Signal.complete, nobody] at queue
    cases queue

theorem owed_self {s : State} {id : ℕ} {viewer after : Attached} {act : Act} {signal : Signal ℕ}
    (followed : Followed s) (shared : Shared s (.session id act))
    (present : s.sessions[id]? = some viewer) (moved : Moved s id viewer act signal after)
    {change : ℕ} (unseen : Unseen s after change) :
    s.cursor.next ≤ change ∨ s.owes = true ∨ signal.permit = true ∨
      onWay signal.woken id after change = true := by
  obtain ⟨bound, _⟩ := List.getElem?_eq_some_iff.mp present
  obtain ⟨live, attached, shown, changed⟩ := unseen
  have before : viewer.phase ≠ .closed → viewer.attachedAt ≤ change → viewer.shown ≤ change →
      Owed s id viewer change :=
    fun here joined behind => followed id viewer present change ⟨here, joined, behind, changed⟩
  cases moved with
  | took | woken | pushed | flushed => exact Or.inr (Or.inr (Or.inr rfl))
  | postponed => exact Or.inr (Or.inr (Or.inr rfl))
  | parked selecting absent =>
    rcases before (by simp [selecting]) attached shown with queued | owed | stored | coming
    · exact Or.inl queued
    · exact Or.inr (Or.inl owed)
    · rw [absent] at stored
      cases stored
    · rw [onWay, selecting] at coming
      refine Or.inr (Or.inr (Or.inr ?_))
      simp only [onWay, Bool.or_eq_true]
      exact Or.inl coming
  | left selects =>
    have awake : viewer.phase ≠ .closed := fun closed => by simp [Attached.inSelect, closed] at selects
    by_cases queued : s.cursor.next ≤ change
    · exact Or.inl queued
    · by_cases passes : viewer.phase = .parked ∧ id ∈ s.signal.woken
      · -- the wakeup goes to the oldest waiter
        rw [drop_wait_parked passes.1]
        rcases cancel_woken passes.2 with stored | waiting
        · exact Or.inr (Or.inr (Or.inl stored))
        · have loses : losing s id (.session id .other) = true := by
            simp [losing, passes.2, waiting]
          have left := shared id bound viewer present loses change (Nat.lt_of_not_le queued)
            ⟨awake, attached, shown, changed⟩
          rcases Bool.or_eq_true _ _ ▸ left with owed | pending
          · exact Or.inr (Or.inl owed)
          · exact Or.inr (Or.inr (Or.inr pending))
      · rcases before awake attached shown with queued | owed | stored | coming
        · exact Or.inl queued
        · exact Or.inr (Or.inl owed)
        · exact Or.inr (Or.inr (Or.inl ((drop_wait_keeps s.signal id viewer).1 stored)))
        · rcases on_way_select selects coming with pending | waits
          · exact Or.inr (Or.inr (Or.inr pending))
          · exact absurd waits passes
  | handled handling =>
    rcases before (by simp [handling]) attached shown with queued | owed | stored | coming
    · exact Or.inl queued
    · exact Or.inr (Or.inl owed)
    · exact Or.inr (Or.inr (Or.inl stored))
    · rw [onWay, handling] at coming
      exact Or.inr (Or.inr (Or.inr coming))
  | rendered rendering =>
    have sent : change < s.channel.sent.length := Unseen.sent ⟨live, attached, shown, changed⟩
    refine Or.inr (Or.inr (Or.inr ?_))
    simpa [onWay] using sent
  | failed rendering =>
    by_cases queued : s.cursor.next ≤ change
    · exact Or.inl queued
    · have loses : losing s id (.session id .fail) = true := by simp [losing]
      have left := shared id bound viewer present loses change (Nat.lt_of_not_le queued)
        ⟨by simp [rendering], attached, shown, changed⟩
      rcases Bool.or_eq_true _ _ ▸ left with owed | stored
      · exact Or.inr (Or.inl owed)
      · exact Or.inr (Or.inr (Or.inl stored))
  | @written paced frame writing =>
    have behind : viewer.shown ≤ change := Nat.le_trans (Nat.le_max_left _ _) shown
    rcases before (by simp [writing]) attached behind with queued | owed | stored | coming
    · exact Or.inl queued
    · exact Or.inr (Or.inl owed)
    · exact Or.inr (Or.inr (Or.inl stored))
    · -- the frame just written shows the change
      rw [onWay, writing] at coming
      cases frame with
      | none => cases coming
      | some position =>
        have newer : change < position := of_decide_eq_true coming
        have older : position ≤ change := Nat.le_trans (Nat.le_max_right _ _) shown
        exact absurd newer (Nat.not_lt_of_le older)
  | closed => exact absurd rfl live

theorem followed_of_reachable {slots : ℕ} {s : State}
    (reached : Reachable (machine slots) Shared s) : Followed s := by
  refine invariant_relative (P := Followed) registered_of_reachable ?_ ?_ reached
  · intro id viewer present
    cases present
  · intro before after label registered _ followed shared taken
    cases label with
    | tick nanos =>
      cases taken
      exact followed
    | emit event =>
      cases taken
      exact followed_emit registered followed event
    | pumpRecv => exact followed_recv followed taken
    | pumpNotify =>
      obtain ⟨_, same⟩ := Option.ite_none_right_eq_some.mp taken
      cases same
      exact followed_notify registered shared
    | attach minIntervalMs =>
      cases taken
      exact followed_attach followed minIntervalMs
    | session id act =>
      obtain ⟨viewer, signal, entry, present, moved, rfl⟩ := session_step taken
      intro other current found change unseen
      rcases (set_entry present other current).mp found with ⟨rfl, rfl⟩ | ⟨distinct, kept⟩
      · exact owed_self followed shared present moved unseen
      · exact owed_other followed shared moved distinct kept unseen

/-! ## At rest -/

/-- The pump waits once it has received everything. -/
theorem pump_recv_none_iff {s : State} (free : s.owes = false) :
    step s .pumpRecv = none ↔ s.channel.sent.length ≤ s.cursor.next := by
  rw [← recv_empty_iff]
  simp only [step, pumpRecv, free]
  rcases s.channel.recv s.cursor with ⟨_ | _ | _, _⟩ <;> simp

/-- A session that waits for a change, without a deadline and not woken, does not move by
itself. -/
theorem advance_none_of_parked {s : State} {id : ℕ} {viewer : Attached} {act : Act}
    (parked : viewer.phase = .parked) (idle : viewer.pending = false)
    (asleep : id ∉ s.signal.woken) (own : act ≠ .other ∧ act ≠ .close) :
    advance s id viewer act = none := by
  cases act with
  | other => exact absurd rfl own.1
  | close => exact absurd rfl own.2
  | _ => simp [advance, parked, idle, asleep, Attached.inSelect]

theorem due_of_late {viewer : Attached} {now : ℕ}
    (late : viewer.lastSent.getD 0 + viewer.interval ≤ now) : viewer.due now = true := by
  rw [Attached.due, Option.all_eq_true]
  intro last sent
  rw [sent] at late
  exact decide_eq_true late

/-- A session with a pending change moves when its deadline is over. -/
theorem pace_moves {s : State} {id : ℕ} {viewer : Attached} (phase : viewer.phase = .parked)
    (pending : viewer.pending = true) (due : viewer.due s.now = true) :
    advance s id viewer .pace ≠ none := by
  simp [advance, phase, pending, due, Attached.inSelect]

/-- A session that moves at no time any more has ended or waits for a change. -/
theorem parked_of_advance_none {s : State} {id : ℕ} {viewer : Attached}
    (live : viewer.phase ≠ .closed)
    (still : ∀ act, act ≠ .other → act ≠ .close → ∀ nanos,
      advance { s with now := s.now + nanos } id viewer act = none) :
    viewer.phase = .parked ∧ viewer.pending = false ∧ id ∉ s.signal.woken := by
  cases phase : viewer.phase with
  | selecting => simpa [advance, phase] using still .poll (by decide) (by decide) 0
  | parked =>
    refine ⟨rfl, Bool.eq_false_iff.mpr fun pending => ?_, fun woken => ?_⟩
    · -- the deadline passes
      exact pace_moves phase pending (due_of_late (Nat.le_add_left _ _))
        (still .pace (by decide) (by decide) (viewer.lastSent.getD 0 + viewer.interval))
    · simpa [advance, phase, woken] using still .wake (by decide) (by decide) 0
  | deciding =>
    have stuck := still .decide (by decide) (by decide) 0
    simp only [advance, phase, if_true] at stuck
    split at stuck <;> cases stuck
  | rendering => simpa [advance, phase] using still .render (by decide) (by decide) 0
  | writing => simpa [advance, phase] using still .write (by decide) (by decide) 0
  | handling => simpa [advance, phase] using still .handled (by decide) (by decide) 0
  | closed => exact absurd phase live

theorem session_step_none {s : State} {id : ℕ} {viewer : Attached} {act : Act}
    (present : s.sessions[id]? = some viewer) :
    step s (.session id act) = none ↔ advance s id viewer act = none := by
  simp only [step, present, Option.bind_some, Option.map_eq_none_iff]

/-- The state of a session that is at rest. -/
theorem at_rest_iff {s : State} {id : ℕ} {viewer : Attached}
    (present : s.sessions[id]? = some viewer) (live : viewer.phase ≠ .closed) :
    AtRest s id ↔ s.owes = false ∧ s.channel.sent.length ≤ s.cursor.next ∧
      viewer.phase = .parked ∧ viewer.pending = false ∧ id ∉ s.signal.woken := by
  constructor
  · rintro ⟨received, notified, still⟩
    have free : s.owes = false := by
      refine Bool.eq_false_iff.mpr fun owed => ?_
      simp [step, owed] at notified
    refine ⟨free, (pump_recv_none_iff free).mp received, parked_of_advance_none live ?_⟩
    intro act message close nanos
    exact (session_step_none (s := { s with now := s.now + nanos }) present).mp
      (still act message close nanos)
  · rintro ⟨free, received, parked, idle, asleep⟩
    refine ⟨(pump_recv_none_iff free).mpr received, by simp [step, free], ?_⟩
    intro act message close nanos
    exact (session_step_none (s := { s with now := s.now + nanos }) present).mpr
      (advance_none_of_parked parked idle asleep ⟨message, close⟩)

/-- The desktop changes, and the pump reports it. -/
def changed (seq : ℕ) : List Label :=
  [.emit (.windowActivated seq 0 ⟨1⟩ none), .pumpRecv, .pumpNotify]

/-- A session streams a frame after its wakeup, and waits for the next one. -/
def streams (id : ℕ) : List Label :=
  [.session id .wake, .session id .decide, .session id .render, .session id .write,
    .session id .poll]

/-- A paced viewer has its second change pending when another viewer attaches; the third change
wakes the other one, and the deadline brings it to the first. -/
def pacedAndPrompt : State :=
  finalState (machine 16) Shared
    ([.attach 10, .session 0 .poll] ++ changed 1 ++ streams 0 ++ changed 2 ++
      [.session 0 .wake, .session 0 .decide, .attach 0, .session 1 .poll, .session 0 .poll] ++
      changed 3 ++ streams 1 ++
      [.tick 10000000, .session 0 .pace, .session 0 .render, .session 0 .write, .session 0 .poll])
    (by decide +kernel)

/-- The one wakeup of a change goes to the session that waits longest. -/
def twoViewers : State :=
  finalState (machine 16) anyStep
    ([.attach 0, .attach 0, .session 0 .poll, .session 1 .poll] ++ changed 1 ++ streams 0)
    (by decide +kernel)

end ADesk.Viewer.Streaming
