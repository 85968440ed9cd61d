/- ADesk/Client/Fanout
   digest: The event fan-out of a connection: one bounded queue and one skip counter a stream,
   filled under a lock and drained without it. -/

import ADesk.Foundation.Entries
import ADesk.Foundation.Execution
import ADesk.Foundation.GapLog
import Mathlib.Data.List.DropRight
import Mathlib.Data.List.Nodup

set_option autoImplicit false

namespace ADesk.Client.Fanout

open ADesk.Foundation.Entries
open ADesk.Foundation.Execution
open ADesk.Foundation.GapLog

universe u

variable {ε : Type u}

def eventChannelCapacity : ℕ := 4096

/-- The two ends of one subscription, and what went through them. -/
structure Channel (ε : Type u) where
  queue : List (ε × ℕ)
  skipped : ℕ
  receiverAlive : Bool
  -- The poll under way found no skipped events and takes from the queue next.
  taking : Bool
  closedReported : Bool
  -- History: the number of the first event after the registration, the events offered since, those
  -- the full queue refused, and what the polls reported.
  since : ℕ
  offered : List (ε × ℕ)
  refused : List (ε × ℕ)
  items : List (Item ε)

def Channel.opened (since : ℕ) : Channel ε := ⟨[], 0, true, false, false, since, [], [], []⟩

/-- The live subscriptions by channel, and whether the connection ended. -/
structure EventFanout where
  subscribers : List ℕ
  closed : Bool

/-- A new sender; one of an ended connection is dropped at once. -/
def EventFanout.register (fanout : EventFanout) (index : ℕ) : EventFanout :=
  if fanout.closed then fanout else { fanout with subscribers := fanout.subscribers ++ [index] }

/-- An event on its way to the subscribers in turn; a full queue is counted in a step of its
own. -/
structure Sending (ε : Type u) where
  event : ε × ℕ
  waiting : List ℕ
  counting : Option ℕ

/-- The fan-out with its channels; a send under way holds the lock. `sent` is its history. -/
structure Hub (ε : Type u) where
  fanout : EventFanout
  channels : List (Channel ε)
  sending : Option (Sending ε)
  sent : List ε

def Hub.new : Hub ε := ⟨⟨[], false⟩, [], none, []⟩

def Hub.isLive (hub : Hub ε) (index : ℕ) : Bool := (hub.channels[index]?).any Channel.receiverAlive

def Hub.update (hub : Hub ε) (index : ℕ) (change : Channel ε → Channel ε) : Hub ε :=
  { hub with channels := hub.channels.modify index change }

def Hub.subscribe (hub : Hub ε) : Option (Hub ε) :=
  if hub.sending.isNone then
    some { hub with
      channels := hub.channels ++ [Channel.opened hub.sent.length]
      fanout := hub.fanout.register hub.channels.length }
  else none

/-- An event is taken for the subscribers up to the last live one. -/
def Hub.send (hub : Hub ε) (payload : ε) : Option (Hub ε) :=
  if hub.sending.isNone then
    let after := { hub with sent := hub.sent ++ [payload] }
    if hub.fanout.closed then some after
    else
      match hub.fanout.subscribers.rdropWhile (fun index => !hub.isLive index) with
      | [] => some { after with fanout := { hub.fanout with subscribers := [] } }
      | first :: rest =>
        some { after with sending := some ⟨(payload, hub.sent.length), first :: rest, none⟩ }
  else none

/-- What `try_send` does to a channel. -/
def Channel.trySend (capacity : ℕ) (event : ε × ℕ) (channel : Channel ε) : Channel ε :=
  if channel.receiverAlive then
    if channel.queue.length < capacity then
      { channel with queue := channel.queue ++ [event], offered := channel.offered ++ [event] }
    else { channel with offered := channel.offered ++ [event], refused := channel.refused ++ [event] }
  else channel

/-- Whether `try_send` finds the queue full. -/
def Hub.isFull (capacity : ℕ) (hub : Hub ε) (index : ℕ) : Bool :=
  (hub.channels[index]?).any (fun channel =>
    channel.receiverAlive && decide (capacity ≤ channel.queue.length))

/-- The event is offered to the next subscriber in turn. -/
def Hub.deliver (capacity : ℕ) (hub : Hub ε) : Option (Hub ε) :=
  match hub.sending with
  | some ⟨event, index :: waiting, none⟩ =>
    some { hub.update index (Channel.trySend capacity event) with
      sending := some ⟨event, waiting, if hub.isFull capacity index then some index else none⟩ }
  | _ => none

/-- A refused event is added to the skip counter. -/
def Hub.count (hub : Hub ε) : Option (Hub ε) :=
  match hub.sending with
  | some ⟨event, waiting, some index⟩ =>
    some { hub.update index (fun channel => { channel with skipped := channel.skipped + 1 }) with
      sending := some ⟨event, waiting, none⟩ }
  | _ => none

/-- The send is over: subscribers whose receiver is gone are retired and the lock is released. -/
def Hub.finish (hub : Hub ε) : Option (Hub ε) :=
  match hub.sending with
  | some ⟨_, [], none⟩ =>
    some { hub with
      fanout := { hub.fanout with subscribers := hub.fanout.subscribers.filter hub.isLive }
      sending := none }
  | _ => none

def Hub.close (hub : Hub ε) : Option (Hub ε) :=
  if hub.sending.isNone then some { hub with fanout := ⟨[], true⟩ } else none

/-- The first half of a poll: the skip counter is taken and, when it counted, reported. -/
def Channel.takeSkipped (channel : Channel ε) : Channel ε :=
  if 0 < channel.skipped then
    { channel with skipped := 0, items := channel.items ++ [.lagged channel.skipped] }
  else { channel with taking := true }

/-- The second half of a poll: the queue, or the end once the sender is gone. -/
def Channel.recv (senderAlive : Bool) (channel : Channel ε) : Channel ε :=
  match channel.queue with
  | event :: rest =>
    { channel with
      queue := rest
      taking := false
      items := channel.items ++ [.event event.1 event.2] }
  | [] =>
    if senderAlive || channel.closedReported then { channel with taking := false }
    else
      { channel with taking := false, closedReported := true, items := channel.items ++ [.closed] }

inductive Label (ε : Type u)
  | subscribe
  | send (payload : ε)
  | deliver
  | count
  | finish
  | close
  | pollSkipped (index : ℕ)
  | pollQueue (index : ℕ)
  | dropStream (index : ℕ)

/-- Whether a stream may start a poll, or finish the one it started. -/
def Hub.polls (hub : Hub ε) (index : ℕ) (taking : Bool) : Bool :=
  (hub.channels[index]?).any (fun channel => channel.receiverAlive && channel.taking == taking)

def step (capacity : ℕ) (hub : Hub ε) : Label ε → Option (Hub ε)
  | .subscribe => hub.subscribe
  | .send payload => hub.send payload
  | .deliver => hub.deliver capacity
  | .count => hub.count
  | .finish => hub.finish
  | .close => hub.close
  | .pollSkipped index =>
    if hub.polls index false then some (hub.update index Channel.takeSkipped) else none
  | .pollQueue index =>
    if hub.polls index true then
      some (hub.update index (Channel.recv (hub.fanout.subscribers.contains index)))
    else none
  | .dropStream index =>
    if hub.polls index false then
      some (hub.update index (fun channel => { channel with receiverAlive := false }))
    else none

def machine (ε : Type u) (capacity : ℕ) : Machine (Hub ε) (Label ε) := ⟨Hub.new, step capacity⟩

/-! ## What every run keeps -/

/-- The event a subscriber is still to be offered. -/
def Hub.due (hub : Hub ε) (index : ℕ) : List (ε × ℕ) :=
  match hub.sending with
  | some sending => if index ∈ sending.waiting then [sending.event] else []
  | none => []

/-- The refused event that is not counted yet. -/
def Hub.uncounted (hub : Hub ε) (index : ℕ) : ℕ :=
  match hub.sending with
  | some sending => if sending.counting = some index then 1 else 0
  | none => 0

/-- The subscribers are distinct channels, and the send under way serves some of them. -/
structure Registered (hub : Hub ε) : Prop where
  ended : hub.fanout.closed = true → hub.fanout.subscribers = []
  distinct : hub.fanout.subscribers.Nodup
  below : ∀ index ∈ hub.fanout.subscribers, index < hub.channels.length
  waiting : ∀ sending, hub.sending = some sending →
    sending.waiting.Nodup ∧ ∀ index ∈ sending.waiting, index ∈ hub.fanout.subscribers
  counting : ∀ sending index, hub.sending = some sending → sending.counting = some index →
    index < hub.channels.length

/-- Where each event offered to a channel is, and what its skip counter counts. -/
structure Accounts (log due : List (ε × ℕ)) (subscribed : Prop) (uncounted : ℕ)
    (channel : Channel ε) : Prop where
  consecutive : channel.offered <+: log.drop channel.since
  current : channel.receiverAlive = true → subscribed →
    channel.offered ++ due = log.drop channel.since
  since : channel.since ≤ log.length
  kept : (delivered channel.items ++ channel.queue).Sublist channel.offered
  lost : channel.refused.Sublist channel.offered
  split : (delivered channel.items ++ channel.queue ++ channel.refused).Perm channel.offered
  counted : channel.refused.length = lagSum channel.items + channel.skipped + uncounted

structure Sound (hub : Hub ε) : Prop where
  registered : Registered hub
  accounts : ∀ index channel, hub.channels[index]? = some channel →
    Accounts hub.sent.zipIdx (hub.due index) (index ∈ hub.fanout.subscribers)
      (hub.uncounted index) channel

variable {hub after : Hub ε} {channel : Channel ε} {index capacity : ℕ}

variable {log due : List (ε × ℕ)} {subscribed : Prop} {uncounted : ℕ}

theorem Accounts.weaken (accounts : Accounts log due subscribed uncounted channel)
    {later : Prop} (before : later → subscribed) : Accounts log due later uncounted channel :=
  { accounts with current := fun alive now => accounts.current alive (before now) }

/-- A channel nobody is offered anything on, after one more event. -/
theorem Accounts.grown (accounts : Accounts log [] subscribed uncounted channel) (event : ε × ℕ)
    {due : List (ε × ℕ)} {later : Prop}
    (served : channel.receiverAlive = true → later → subscribed ∧ due = [event]) :
    Accounts (log ++ [event]) due later uncounted channel where
  consecutive := by
    rw [List.drop_append_of_le_length accounts.since]
    exact accounts.consecutive.trans (List.prefix_append _ _)
  current alive now := by
    obtain ⟨before, same⟩ := served alive now
    have current := accounts.current alive before
    rw [List.append_nil] at current
    rw [List.drop_append_of_le_length accounts.since, ← current, same]
  since := by
    rw [List.length_append]
    exact Nat.le_trans accounts.since (Nat.le_add_right _ _)
  kept := accounts.kept
  lost := accounts.lost
  split := accounts.split
  counted := accounts.counted

theorem Accounts.trySend {event : ε × ℕ} (accounts : Accounts log [event] subscribed 0 channel)
    (now : subscribed) :
    Accounts log [] subscribed
      (if channel.receiverAlive && decide (capacity ≤ channel.queue.length) then 1 else 0)
      (channel.trySend capacity event) := by
  unfold Channel.trySend
  cases alive : channel.receiverAlive with
  | false =>
    simp only [Bool.false_and, Bool.false_eq_true, if_false]
    exact { accounts with current := fun living => by rw [alive] at living; cases living }
  | true =>
    have complete := accounts.current alive now
    have whole : channel.offered ++ [event] <+: log.drop channel.since := complete ▸ List.prefix_rfl
    have counted := accounts.counted
    simp only [Bool.true_and, if_true, decide_eq_true_eq]
    by_cases room : channel.queue.length < capacity
    · rw [if_pos room, if_neg (Nat.not_le.mpr room)]
      refine ⟨whole, fun _ _ => (List.append_nil _).trans complete, accounts.since, ?_,
        accounts.lost.trans (List.sublist_append_left _ _), ?_, counted⟩
      · rw [← List.append_assoc]
        exact accounts.kept.append (List.Sublist.refl _)
      · -- The event joins the kept ones, in front of the refused.
        refine List.Perm.trans ?_ (accounts.split.append_right [event])
        simp only [List.append_assoc]
        exact (List.perm_append_comm.append_left _).append_left _
    · rw [if_neg room, if_pos (Nat.not_lt.mp room)]
      refine ⟨whole, fun _ _ => (List.append_nil _).trans complete, accounts.since,
        accounts.kept.trans (List.sublist_append_left _ _),
        accounts.lost.append (List.Sublist.refl _), ?_, ?_⟩
      · rw [← List.append_assoc]
        exact accounts.split.append_right [event]
      · rw [List.length_append, List.length_singleton, counted]

theorem Accounts.count (accounts : Accounts log due subscribed 1 channel) :
    Accounts log due subscribed 0 { channel with skipped := channel.skipped + 1 } :=
  { accounts with
    counted := by
      have := accounts.counted
      simp only
      omega }

theorem Accounts.takeSkipped (accounts : Accounts log due subscribed uncounted channel) :
    Accounts log due subscribed uncounted channel.takeSkipped := by
  unfold Channel.takeSkipped
  split
  · have same : delivered (channel.items ++ [.lagged channel.skipped]) = delivered channel.items := by
      simp [delivered]
    have sum : lagSum (channel.items ++ [.lagged channel.skipped]) =
        lagSum channel.items + channel.skipped := by simp [lagSum, Item.missed]
    have kept := accounts.kept
    have split := accounts.split
    have counted := accounts.counted
    refine ⟨accounts.consecutive, accounts.current, accounts.since, ?_, accounts.lost, ?_, ?_⟩
    · rw [same]
      exact kept
    · rw [same]
      exact split
    · rw [sum]
      simp only
      omega
  · exact { accounts with }

theorem Accounts.recv (accounts : Accounts log due subscribed uncounted channel)
    (senderAlive : Bool) :
    Accounts log due subscribed uncounted (channel.recv senderAlive) := by
  unfold Channel.recv
  have kept := accounts.kept
  have split := accounts.split
  have counted := accounts.counted
  split
  · next event rest queued =>
    have moved : delivered (channel.items ++ [.event event.1 event.2]) ++ rest =
        delivered channel.items ++ channel.queue := by
      rw [queued, delivered_append, List.append_assoc]
      rfl
    have sum : lagSum (channel.items ++ [.event event.1 event.2]) = lagSum channel.items := by
      simp [lagSum, Item.missed]
    refine ⟨accounts.consecutive, accounts.current, accounts.since, ?_, accounts.lost, ?_, ?_⟩
    · rw [moved]
      exact kept
    · rw [moved]
      exact split
    · rw [sum]
      exact counted
  · split
    · exact { accounts with }
    · have same : delivered (channel.items ++ [.closed]) = delivered channel.items := by
        simp [delivered]
      have sum : lagSum (channel.items ++ [.closed]) = lagSum channel.items := by
        simp [lagSum, Item.missed]
      refine ⟨accounts.consecutive, accounts.current, accounts.since, ?_, accounts.lost, ?_, ?_⟩
      · rw [same]
        exact kept
      · rw [same]
        exact split
      · rw [sum]
        exact counted

theorem Accounts.dropped (accounts : Accounts log due subscribed uncounted channel) :
    Accounts log due subscribed uncounted { channel with receiverAlive := false } :=
  { accounts with current := fun living => by cases living }

theorem zip_idx_grown (sent : List ε) (payload : ε) :
    (sent ++ [payload]).zipIdx = sent.zipIdx ++ [(payload, sent.length)] := by
  rw [List.zipIdx_append, Nat.zero_add]
  rfl

theorem Sound.new : Sound (Hub.new : Hub ε) where
  registered :=
    { ended := fun _ => rfl
      distinct := List.nodup_nil
      below := fun index member => absurd member List.not_mem_nil
      waiting := fun sending taken => by cases taken
      counting := fun sending index taken => by cases taken }
  accounts index channel present := by simp [Hub.new] at present

theorem due_idle (idle : hub.sending = none) (index : ℕ) : hub.due index = [] := by
  unfold Hub.due
  rw [idle]

theorem due_sending {sending : Sending ε} (under : hub.sending = some sending) (index : ℕ) :
    hub.due index = if index ∈ sending.waiting then [sending.event] else [] := by
  unfold Hub.due
  rw [under]

theorem uncounted_sending {sending : Sending ε} (under : hub.sending = some sending)
    (index : ℕ) : hub.uncounted index = if sending.counting = some index then 1 else 0 := by
  unfold Hub.uncounted
  rw [under]

theorem uncounted_idle (idle : hub.sending = none) (index : ℕ) : hub.uncounted index = 0 := by
  unfold Hub.uncounted
  rw [idle]

/-- Without a send under way the subscribers alone decide. -/
theorem Registered.idle (idle : after.sending = none)
    (ended : after.fanout.closed = true → after.fanout.subscribers = [])
    (distinct : after.fanout.subscribers.Nodup)
    (below : ∀ index ∈ after.fanout.subscribers, index < after.channels.length) :
    Registered after where
  ended := ended
  distinct := distinct
  below := below
  waiting sending under := by
    rw [idle] at under
    cases under
  counting sending index under := by
    rw [idle] at under
    cases under

theorem mem_register {fanout : EventFanout} {fresh : ℕ}
    (member : index ∈ (fanout.register fresh).subscribers) :
    index ∈ fanout.subscribers ∨ index = fresh := by
  unfold EventFanout.register at member
  split at member
  · exact Or.inl member
  · rcases List.mem_append.mp member with old | new
    · exact Or.inl old
    · exact Or.inr (List.mem_singleton.mp new)

theorem register_distinct {fanout : EventFanout} {fresh : ℕ} (distinct : fanout.subscribers.Nodup)
    (below : ∀ index ∈ fanout.subscribers, index < fresh) :
    (fanout.register fresh).subscribers.Nodup := by
  unfold EventFanout.register
  split
  · exact distinct
  · refine List.nodup_append.mpr ⟨distinct, List.nodup_singleton _, ?_⟩
    intro first member second single same
    have := below first member
    rw [List.mem_singleton] at single
    omega

theorem register_ended {fanout : EventFanout} {fresh : ℕ}
    (ended : fanout.closed = true → fanout.subscribers = [])
    (closed : (fanout.register fresh).closed = true) : (fanout.register fresh).subscribers = [] := by
  unfold EventFanout.register at closed ⊢
  split
  · next was => exact ended was
  · next was =>
    rw [if_neg was] at closed
    exact absurd closed was

theorem Sound.subscribe (sound : Sound hub) (taken : hub.subscribe = some after) : Sound after := by
  unfold Hub.subscribe at taken
  split at taken
  · next free =>
    have idle : hub.sending = none := Option.isNone_iff_eq_none.mp free
    obtain rfl := (Option.some.inj taken).symm
    refine ⟨Registered.idle idle (register_ended sound.registered.ended)
      (register_distinct sound.registered.distinct sound.registered.below) ?_, ?_⟩
    · intro index member
      rw [List.length_append, List.length_singleton]
      rcases mem_register member with old | new
      · have := sound.registered.below index old
        omega
      · omega
    · intro index channel present
      rcases (append_entry _ _ index channel).mp present with before | ⟨rfl, rfl⟩
      · obtain ⟨inside, _⟩ := List.getElem?_eq_some_iff.mp before
        refine (sound.accounts index channel before).weaken fun member => ?_
        exact (mem_register member).resolve_right (by omega)
      · have nothing : hub.sent.zipIdx.drop hub.sent.length = [] := by
          rw [List.drop_eq_nil_iff, List.length_zipIdx]
        have noDue : hub.due hub.channels.length = [] := due_idle idle _
        have noCount : hub.uncounted hub.channels.length = 0 := uncounted_idle idle _
        refine ⟨List.nil_prefix, fun _ _ => ?_, ?_, List.Sublist.refl _, List.Sublist.refl _,
          List.Perm.refl _, ?_⟩
        · exact (List.nil_append _).trans (noDue.trans nothing.symm)
        · exact Nat.le_of_eq List.length_zipIdx.symm
        · exact ((Nat.zero_add _).trans noCount).symm
  · cases taken

/-- A live subscriber is among those up to the last live one. -/
theorem live_served (live : hub.isLive index = true) {subscribers : List ℕ}
    (member : index ∈ subscribers) :
    index ∈ subscribers.rdropWhile (fun other => !hub.isLive other) := by
  have parts : subscribers.rdropWhile (fun other => !hub.isLive other) ++
      subscribers.rtakeWhile (fun other => !hub.isLive other) = subscribers :=
    List.rdropWhile_append_rtakeWhile
  rw [← parts] at member
  rcases List.mem_append.mp member with served | dead
  · exact served
  · have := List.mem_rtakeWhile_imp dead
    rw [live] at this
    cases this

theorem Sound.send (sound : Sound hub) {payload : ε} (taken : hub.send payload = some after) :
    Sound after := by
  unfold Hub.send at taken
  split at taken
  · next free =>
    have idle : hub.sending = none := Option.isNone_iff_eq_none.mp free
    have quiet : ∀ index channel, hub.channels[index]? = some channel →
        Accounts hub.sent.zipIdx [] (index ∈ hub.fanout.subscribers) 0 channel := by
      intro index channel present
      have accounts := sound.accounts index channel present
      rw [due_idle idle, uncounted_idle idle] at accounts
      exact accounts
    simp only at taken
    split at taken
    · next closed =>
      obtain rfl := (Option.some.inj taken).symm
      refine ⟨Registered.idle idle sound.registered.ended sound.registered.distinct
        sound.registered.below, ?_⟩
      intro index channel present
      rw [zip_idx_grown, uncounted_idle (by exact idle)]
      refine (quiet index channel present).grown _ fun _ member => ?_
      rw [show index ∈ hub.fanout.subscribers ↔ False by
        rw [sound.registered.ended closed]
        simp] at member
      exact member.elim
    · split at taken
      · obtain rfl := (Option.some.inj taken).symm
        refine ⟨Registered.idle idle (fun _ => rfl) List.nodup_nil
          (fun index member => absurd member List.not_mem_nil), ?_⟩
        intro index channel present
        rw [zip_idx_grown, uncounted_idle (by exact idle)]
        exact (quiet index channel present).grown _ fun _ member =>
          absurd member List.not_mem_nil
      · next first rest served =>
        obtain rfl := (Option.some.inj taken).symm
        have within := List.rdropWhile_prefix (fun other => !hub.isLive other)
          (l := hub.fanout.subscribers)
        rw [served] at within
        refine ⟨⟨sound.registered.ended, sound.registered.distinct, sound.registered.below, ?_, ?_⟩,
          ?_⟩
        · intro sending under
          obtain rfl := (Option.some.inj under).symm
          exact ⟨sound.registered.distinct.sublist within.sublist,
            fun index member => within.subset member⟩
        · intro sending index under counting
          obtain rfl := (Option.some.inj under).symm
          cases counting
        · intro index channel present
          rw [zip_idx_grown, uncounted_sending rfl]
          refine (quiet index channel present).grown _ fun alive member => ⟨member, ?_⟩
          have live : hub.isLive index = true := by
            rw [Hub.isLive, present]
            exact alive
          have waits := live_served live member
          rw [served] at waits
          exact (due_sending rfl index).trans (if_pos waits)
  · cases taken

/-- The entries of a modified channel table. -/
theorem update_channel {change : Channel ε → Channel ε} {other : ℕ} {entry : Channel ε}
    (present : hub.channels[index]? = some channel) :
    (hub.update index change).channels[other]? = some entry ↔
      (other = index ∧ entry = change channel) ∨
        (other ≠ index ∧ hub.channels[other]? = some entry) :=
  modify_entry change present other entry

theorem update_length (change : Channel ε → Channel ε) :
    (hub.update index change).channels.length = hub.channels.length :=
  List.length_modify _ _ _

theorem Sound.deliver (sound : Sound hub) (taken : hub.deliver capacity = some after) :
    Sound after := by
  unfold Hub.deliver at taken
  split at taken
  · next event served waiting under =>
    obtain rfl := (Option.some.inj taken).symm
    obtain ⟨distinct, subscribed⟩ := sound.registered.waiting _ under
    obtain ⟨fresh, distinctRest⟩ := List.nodup_cons.mp distinct
    have inside : served < hub.channels.length :=
      sound.registered.below served (subscribed served List.mem_cons_self)
    have present : hub.channels[served]? = some hub.channels[served] :=
      List.getElem?_eq_getElem inside
    refine ⟨⟨sound.registered.ended, sound.registered.distinct, ?_, ?_, ?_⟩, ?_⟩
    · intro index member
      rw [show (_ : Hub ε).channels.length = _ from update_length _]
      exact sound.registered.below index member
    · intro sending started
      obtain rfl := (Option.some.inj started).symm
      exact ⟨distinctRest, fun index member => subscribed index (List.mem_cons_of_mem _ member)⟩
    · intro sending index started counting
      obtain rfl := (Option.some.inj started).symm
      rw [show (_ : Hub ε).channels.length = _ from update_length _]
      simp only at counting
      split at counting
      · exact Option.some.inj counting ▸ inside
      · cases counting
    · intro index channel found
      rw [due_sending rfl, uncounted_sending rfl]
      rcases (update_channel present).mp found with ⟨rfl, rfl⟩ | ⟨other, kept⟩
      · have accounts := sound.accounts index _ present
        rw [due_sending under, uncounted_sending under, if_pos List.mem_cons_self] at accounts
        have full : hub.isFull capacity index =
            (hub.channels[index].receiverAlive &&
              decide (capacity ≤ hub.channels[index].queue.length)) := by
          rw [Hub.isFull, present]
          rfl
        have offered := @Accounts.trySend ε _ capacity _ _ _ accounts
          (subscribed index List.mem_cons_self)
        rw [← full] at offered
        rw [if_neg fresh]
        cases found : hub.isFull capacity index with
        | true =>
          rw [found] at offered
          simpa [Hub.update] using offered
        | false =>
          rw [found] at offered
          simpa [Hub.update] using offered
      · have accounts := sound.accounts index channel kept
        rw [due_sending under, uncounted_sending under] at accounts
        have same : index ∈ served :: waiting ↔ index ∈ waiting := by
          simp [other]
        have notCounted : (if hub.isFull capacity served then some served else none) ≠
            some index := by
          split
          · exact fun same => other (Option.some.inj same).symm
          · exact fun same => by cases same
        rw [if_neg notCounted]
        simpa [Hub.update, same] using accounts
  · cases taken

theorem Sound.count (sound : Sound hub) (taken : hub.count = some after) : Sound after := by
  unfold Hub.count at taken
  split at taken
  · next event waiting served under =>
    obtain rfl := (Option.some.inj taken).symm
    have inside := sound.registered.counting _ served under rfl
    have present : hub.channels[served]? = some hub.channels[served] :=
      List.getElem?_eq_getElem inside
    refine ⟨⟨sound.registered.ended, sound.registered.distinct, ?_, ?_, ?_⟩, ?_⟩
    · intro index member
      rw [show (_ : Hub ε).channels.length = _ from update_length _]
      exact sound.registered.below index member
    · intro sending started
      obtain rfl := (Option.some.inj started).symm
      exact sound.registered.waiting ⟨event, waiting, some served⟩ under
    · intro sending index started counting
      obtain rfl := (Option.some.inj started).symm
      cases counting
    · intro index channel found
      rw [due_sending rfl, uncounted_sending rfl]
      rcases (update_channel present).mp found with ⟨rfl, rfl⟩ | ⟨other, kept⟩
      · have accounts := sound.accounts index _ present
        rw [due_sending under, uncounted_sending under, if_pos rfl] at accounts
        exact accounts.count
      · have accounts := sound.accounts index channel kept
        have notCounted : some served ≠ some index :=
          fun same => other (Option.some.inj same).symm
        rw [due_sending under, uncounted_sending under, if_neg notCounted] at accounts
        exact accounts
  · cases taken

theorem Sound.finish (sound : Sound hub) (taken : hub.finish = some after) : Sound after := by
  unfold Hub.finish at taken
  split at taken
  · next event under =>
    obtain rfl := (Option.some.inj taken).symm
    refine ⟨Registered.idle rfl ?_ (sound.registered.distinct.filter _) ?_, ?_⟩
    · intro closed
      have nobody := sound.registered.ended closed
      simp [nobody]
    · exact fun index member => sound.registered.below index (List.mem_of_mem_filter member)
    · intro index channel present
      have accounts := sound.accounts index channel present
      rw [due_sending under, uncounted_sending under] at accounts
      exact accounts.weaken List.mem_of_mem_filter
  · cases taken

theorem Sound.close (sound : Sound hub) (taken : hub.close = some after) : Sound after := by
  unfold Hub.close at taken
  split at taken
  · next free =>
    have idle : hub.sending = none := Option.isNone_iff_eq_none.mp free
    obtain rfl := (Option.some.inj taken).symm
    refine ⟨Registered.idle idle (fun _ => rfl) List.nodup_nil
      (fun index member => absurd member List.not_mem_nil), ?_⟩
    intro index channel present
    exact (sound.accounts index channel present).weaken fun member =>
      absurd member List.not_mem_nil
  · cases taken

/-- A stream changes its own channel only. -/
theorem Sound.polled (sound : Sound hub) {change : Channel ε → Channel ε}
    (keeps : ∀ channel, hub.channels[index]? = some channel →
      ∀ {log due : List (ε × ℕ)} {subscribed : Prop} {uncounted : ℕ},
        Accounts log due subscribed uncounted channel →
          Accounts log due subscribed uncounted (change channel)) :
    Sound (hub.update index change) := by
  refine ⟨⟨sound.registered.ended, sound.registered.distinct, ?_, sound.registered.waiting, ?_⟩, ?_⟩
  · intro other member
    rw [update_length]
    exact sound.registered.below other member
  · intro sending other under counting
    rw [update_length]
    exact sound.registered.counting sending other under counting
  · intro other channel found
    cases present : hub.channels[index]? with
    | none =>
      have same : hub.channels.modify index change = hub.channels :=
        List.modify_eq_self (List.getElem?_eq_none_iff.mp present)
      rw [Hub.update, same] at found
      exact sound.accounts other channel found
    | some before =>
      rcases (update_channel present).mp found with ⟨rfl, rfl⟩ | ⟨_, kept⟩
      · exact keeps before present (sound.accounts other before present)
      · exact sound.accounts other channel kept

theorem sound_step {label : Label ε} (sound : Sound hub)
    (taken : step capacity hub label = some after) : Sound after := by
  cases label with
  | subscribe => exact sound.subscribe taken
  | send payload => exact sound.send taken
  | deliver => exact sound.deliver taken
  | count => exact sound.count taken
  | finish => exact sound.finish taken
  | close => exact sound.close taken
  | pollSkipped index =>
    simp only [step] at taken
    split at taken
    · obtain rfl := (Option.some.inj taken).symm
      exact sound.polled fun _ _ => Accounts.takeSkipped
    · cases taken
  | pollQueue index =>
    simp only [step] at taken
    split at taken
    · obtain rfl := (Option.some.inj taken).symm
      exact sound.polled fun _ _ _ _ _ _ accounts => accounts.recv _
    · cases taken
  | dropStream index =>
    simp only [step] at taken
    split at taken
    · obtain rfl := (Option.some.inj taken).symm
      exact sound.polled fun _ _ _ _ _ _ accounts => accounts.dropped
    · cases taken

theorem sound_of_reachable {allowed : Hub ε → Label ε → Prop}
    (reached : Reachable (machine ε capacity) allowed hub) : Sound hub := by
  have invariant : Inductive (machine ε capacity) allowed Sound :=
    ⟨Sound.new, fun sound _ taken => sound_step sound taken⟩
  exact invariant.holds reached

/-! ## What a step does to one channel -/

/-- How the channel of an index came to be what it is after a step. -/
inductive Changed (capacity : ℕ) (hub : Hub ε) (label : Label ε) (index : ℕ) :
    Option (Channel ε) → Channel ε → Prop
  | opened : Changed capacity hub label index none (Channel.opened hub.sent.length)
  | same (channel : Channel ε) : Changed capacity hub label index (some channel) channel
  | offered (channel : Channel ε) (event : ε × ℕ) (due : hub.due index = [event])
    (subscribed : index ∈ hub.fanout.subscribers) :
    Changed capacity hub label index (some channel) (channel.trySend capacity event)
  | counted (channel : Channel ε) :
    Changed capacity hub label index (some channel) { channel with skipped := channel.skipped + 1 }
  | skipTaken (channel : Channel ε) (polled : label = .pollSkipped index) :
    Changed capacity hub label index (some channel) channel.takeSkipped
  | received (channel : Channel ε) (senderAlive : Bool) (polled : label = .pollQueue index) :
    Changed capacity hub label index (some channel) (channel.recv senderAlive)
  | dropped (channel : Channel ε) :
    Changed capacity hub label index (some channel) { channel with receiverAlive := false }

theorem changed_of_update {label : Label ε} {served : ℕ} {change : Channel ε → Channel ε}
    (how : ∀ before, hub.channels[served]? = some before →
      Changed capacity hub label served (some before) (change before))
    (found : (hub.update served change).channels[index]? = some channel) :
    Changed capacity hub label index hub.channels[index]? channel := by
  cases present : hub.channels[served]? with
  | none =>
    have same : hub.channels.modify served change = hub.channels :=
      List.modify_eq_self (List.getElem?_eq_none_iff.mp present)
    rw [Hub.update, same] at found
    rw [show hub.channels[index]? = some channel from found]
    exact .same channel
  | some before =>
    rcases (update_channel present).mp found with ⟨rfl, rfl⟩ | ⟨_, kept⟩
    · rw [present]
      exact how before present
    · rw [kept]
      exact .same channel

theorem step_channel {label : Label ε} (registered : Registered hub)
    (taken : step capacity hub label = some after)
    (found : after.channels[index]? = some channel) :
    Changed capacity hub label index hub.channels[index]? channel := by
  cases label with
  | subscribe =>
    simp only [step, Hub.subscribe] at taken
    split at taken
    · obtain rfl := (Option.some.inj taken).symm
      rcases (append_entry _ _ index channel).mp found with before | ⟨rfl, rfl⟩
      · rw [before]
        exact .same channel
      · rw [List.getElem?_eq_none (Nat.le_refl _)]
        exact .opened
    · cases taken
  | send payload =>
    simp only [step, Hub.send] at taken
    have untouched : after.channels = hub.channels := by
      split at taken
      · split at taken
        · obtain rfl := (Option.some.inj taken).symm
          rfl
        · split at taken
          · obtain rfl := (Option.some.inj taken).symm
            rfl
          · obtain rfl := (Option.some.inj taken).symm
            rfl
      · cases taken
    rw [← untouched, found]
    exact .same channel
  | deliver =>
    simp only [step, Hub.deliver] at taken
    split at taken
    · next event served waiting under =>
      obtain rfl := (Option.some.inj taken).symm
      have waits : served ∈ (⟨event, served :: waiting, none⟩ : Sending ε).waiting :=
        List.mem_cons_self
      have due : hub.due served = [event] := (due_sending under served).trans (if_pos waits)
      have subscribed := (registered.waiting _ under).2 served waits
      exact changed_of_update (fun before _ => .offered before event due subscribed) found
    · cases taken
  | count =>
    simp only [step, Hub.count] at taken
    split at taken
    · obtain rfl := (Option.some.inj taken).symm
      exact changed_of_update (fun before _ => .counted before) found
    · cases taken
  | finish =>
    simp only [step, Hub.finish] at taken
    split at taken
    · obtain rfl := (Option.some.inj taken).symm
      rw [show hub.channels[index]? = some channel from found]
      exact .same channel
    · cases taken
  | close =>
    simp only [step, Hub.close] at taken
    split at taken
    · obtain rfl := (Option.some.inj taken).symm
      rw [show hub.channels[index]? = some channel from found]
      exact .same channel
    · cases taken
  | pollSkipped polled =>
    simp only [step] at taken
    split at taken
    · obtain rfl := (Option.some.inj taken).symm
      exact changed_of_update (fun before _ => .skipTaken before rfl) found
    · cases taken
  | pollQueue polled =>
    simp only [step] at taken
    split at taken
    · obtain rfl := (Option.some.inj taken).symm
      exact changed_of_update (fun before _ => .received before _ rfl) found
    · cases taken
  | dropStream polled =>
    simp only [step] at taken
    split at taken
    · obtain rfl := (Option.some.inj taken).symm
      exact changed_of_update (fun before _ => .dropped before) found
    · cases taken

end ADesk.Client.Fanout
