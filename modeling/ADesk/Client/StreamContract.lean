/- ADesk/Client/StreamContract
   digest: When a stream keeps the contract of a broadcast channel: counts of missed events stand
   where the events are missing. -/

import ADesk.Client.Fanout

set_option autoImplicit false

namespace ADesk.Client.StreamContract

open ADesk.Client.Fanout
open ADesk.Foundation.Execution
open ADesk.Foundation.GapLog

universe u

variable {ε : Type u}

/-- The refused events no report has counted yet. -/
def unreported (channel : Channel ε) : List (ε × ℕ) :=
  channel.refused.drop (lagSum channel.items)

/-- What a stream reported is, in order, part of what was sent while it was registered; the events
and counts before an event account for every event sent before it; and a count stands where the
events it counts are missing. -/
structure Contract (log : List (ε × ℕ)) (channel : Channel ε) : Prop where
  inOrder : (delivered channel.items).Sublist (log.drop channel.since)
  upTo : ∀ before payload number after,
    channel.items = before ++ .event payload number :: after →
      channel.since + (delivered before).length + lagSum before = number
  atGaps : ∀ before skipped after, channel.items = before ++ .lagged skipped :: after →
    ∀ offset, offset < skipped → ∃ payload,
      (payload, channel.since + (delivered before).length + lagSum before + offset) ∈
        channel.refused

/-- No buffered event was sent before one the skip counter counts. -/
def LagInPlace (channel : Channel ε) : Prop :=
  ∀ lost ∈ (unreported channel).take channel.skipped, ∀ kept ∈ channel.queue, lost.2 < kept.2

/-- The event at the head of the queue was sent before any unreported refused one. -/
def NextInPlace (channel : Channel ε) : Prop :=
  ∀ lost ∈ unreported channel, ∀ first ∈ channel.queue.head?, first.2 < lost.2

/-- A poll takes the skip counter, or an event, only where the order of sending allows it. -/
def InOrder (hub : Hub ε) : Label ε → Prop
  | .pollSkipped index => ∀ channel ∈ hub.channels[index]?, LagInPlace channel
  | .pollQueue index => ∀ channel ∈ hub.channels[index]?, NextInPlace channel
  | _ => True

instance (channel : Channel ε) : Decidable (LagInPlace channel) :=
  inferInstanceAs (Decidable (∀ lost ∈ (unreported channel).take channel.skipped,
    ∀ kept ∈ channel.queue, lost.2 < kept.2))

instance (channel : Channel ε) : Decidable (NextInPlace channel) :=
  inferInstanceAs (Decidable (∀ lost ∈ unreported channel, ∀ first ∈ channel.queue.head?,
    first.2 < lost.2))

instance (hub : Hub ε) (label : Label ε) : Decidable (InOrder hub label) := by
  cases label with
  | pollSkipped index =>
    exact inferInstanceAs (Decidable (∀ channel ∈ hub.channels[index]?, LagInPlace channel))
  | pollQueue index =>
    exact inferInstanceAs (Decidable (∀ channel ∈ hub.channels[index]?, NextInPlace channel))
  | _ => exact inferInstanceAs (Decidable True)

/-! ## Numbers of the events of a channel -/

variable {sent : List ε} {log due : List (ε × ℕ)} {subscribed : Prop} {uncounted : ℕ}
  {channel : Channel ε}

theorem segment_numbers (sent : List ε) (since : ℕ) :
    (sent.zipIdx.drop since).map Prod.snd = List.range' since (sent.length - since) := by
  rw [List.map_drop, List.zipIdx_map_snd, List.drop_range', Nat.zero_add, Nat.mul_one]

theorem offered_numbers (accounts : Accounts sent.zipIdx due subscribed uncounted channel) :
    channel.offered.map Prod.snd = List.range' channel.since channel.offered.length := by
  have consecutive := List.prefix_iff_eq_take.mp accounts.consecutive
  have within := accounts.consecutive.length_le
  rw [List.length_drop, List.length_zipIdx] at within
  have taken := congrArg (List.map Prod.snd) consecutive
  rw [List.map_take, segment_numbers, List.take_range'_of_length_ge within] at taken
  exact taken

/-- The events of a channel by number: where each one is, and that it is in one place. -/
structure Numbered (channel : Channel ε) : Prop where
  keptAscending : ((delivered channel.items ++ channel.queue).map Prod.snd).Pairwise (· < ·)
  lostAscending : (channel.refused.map Prod.snd).Pairwise (· < ·)
  apart : ∀ kept ∈ channel.queue, ∀ lost ∈ channel.refused, kept.2 ≠ lost.2
  inside : ∀ event, event ∈ channel.queue ∨ event ∈ channel.refused →
    channel.since ≤ event.2 ∧ event.2 < channel.since + channel.offered.length
  complete : ∀ number, channel.since ≤ number → number < channel.since + channel.offered.length →
    (∃ event ∈ delivered channel.items, event.2 = number) ∨
      (∃ event ∈ channel.queue, event.2 = number) ∨ ∃ event ∈ channel.refused, event.2 = number
  within : channel.since + covered channel.items ≤ channel.since + channel.offered.length

theorem Numbered.of_accounts (accounts : Accounts sent.zipIdx due subscribed uncounted channel) :
    Numbered channel := by
  have numbers := offered_numbers accounts
  have ascending : (channel.offered.map Prod.snd).Pairwise (· < ·) := by
    rw [numbers]
    exact List.pairwise_lt_range'
  have permuted := accounts.split.map Prod.snd
  have distinct : ((delivered channel.items ++ channel.queue ++ channel.refused).map
      Prod.snd).Nodup := by
    rw [permuted.nodup_iff]
    exact ascending.imp Nat.ne_of_lt
  have listed : ∀ number, number ∈ channel.offered.map Prod.snd ↔
      channel.since ≤ number ∧ number < channel.since + channel.offered.length := by
    intro number
    rw [numbers, List.mem_range'_1]
  refine ⟨ascending.sublist (accounts.kept.map _), ascending.sublist (accounts.lost.map _), ?_, ?_,
    ?_, ?_⟩
  · intro kept keptIn lost lostIn
    rw [List.map_append] at distinct
    refine (List.nodup_append.mp distinct).2.2 kept.2 ?_ lost.2 (List.mem_map_of_mem lostIn)
    rw [List.map_append]
    exact List.mem_append_right _ (List.mem_map_of_mem keptIn)
  · intro event either
    refine (listed event.2).mp (permuted.subset (List.mem_map_of_mem ?_))
    rcases either with kept | lost
    · exact List.mem_append_left _ (List.mem_append_right _ kept)
    · exact List.mem_append_right _ lost
  · intro number low high
    obtain ⟨event, member, same⟩ :=
      List.mem_map.mp (permuted.symm.subset ((listed number).mpr ⟨low, high⟩))
    rcases List.mem_append.mp member with kept | lost
    · rcases List.mem_append.mp kept with given | queued
      · exact Or.inl ⟨event, given, same⟩
      · exact Or.inr (Or.inl ⟨event, queued, same⟩)
    · exact Or.inr (Or.inr ⟨event, lost, same⟩)
  · have lengths := accounts.split.length_eq
    have counted := accounts.counted
    rw [List.length_append, List.length_append] at lengths
    rw [covered_eq]
    omega

/-! ## Reports in place -/

/-- The reports stand where they belong, and what is still to come lies ahead of them. -/
structure InPlace (channel : Channel ε) : Prop where
  placed : Placed (fun number => ∃ payload, (payload, number) ∈ channel.refused) channel.since
    channel.items
  behind : ∀ event ∈ delivered channel.items, event.2 < channel.since + covered channel.items
  reported : ∀ event ∈ channel.refused.take (lagSum channel.items),
    event.2 < channel.since + covered channel.items
  ahead : ∀ event ∈ channel.queue, channel.since + covered channel.items ≤ event.2
  toReport : ∀ event ∈ unreported channel, channel.since + covered channel.items ≤ event.2

theorem InPlace.contract (inPlace : InPlace channel)
    (accounts : Accounts log due subscribed uncounted channel) : Contract log channel where
  inOrder :=
    ((List.sublist_append_left _ _).trans accounts.kept).trans accounts.consecutive.sublist
  upTo before payload number after same := by
    have placed := inPlace.placed
    rw [same] at placed
    have number_eq := placed.event_at
    rw [covered_eq] at number_eq
    omega
  atGaps before skipped after same offset below := by
    have placed := inPlace.placed
    rw [same] at placed
    have missing := placed.lagged_at below
    rw [covered_eq, ← Nat.add_assoc] at missing
    exact missing

theorem InPlace.opened (since : ℕ) : InPlace (Channel.opened since : Channel ε) where
  placed := trivial
  behind _ member := absurd member List.not_mem_nil
  reported _ member := absurd member List.not_mem_nil
  ahead _ member := absurd member List.not_mem_nil
  toReport _ member := absurd member List.not_mem_nil

theorem lag_le (accounts : Accounts log due subscribed uncounted channel) :
    lagSum channel.items ≤ channel.refused.length := by
  have := accounts.counted
  omega

/-- A new event is ahead of all reports, whichever way the queue takes it. -/
theorem InPlace.offered {event : ε × ℕ} {capacity : ℕ} (inPlace : InPlace channel)
    (accounts : Accounts log due subscribed uncounted channel)
    (later : channel.receiverAlive = true →
      channel.since + channel.offered.length ≤ event.2)
    (numbered : Numbered channel) : InPlace (channel.trySend capacity event) := by
  have within := numbered.within
  unfold Channel.trySend
  split
  · next alive =>
    have new := later alive
    split
    · refine ⟨inPlace.placed, inPlace.behind, inPlace.reported, ?_, inPlace.toReport⟩
      intro other member
      rcases List.mem_append.mp member with old | last
      · exact inPlace.ahead other old
      · rw [List.mem_singleton.mp last]
        exact Nat.le_trans within new
    · refine ⟨?_, inPlace.behind, ?_, inPlace.ahead, ?_⟩
      · exact inPlace.placed.mono fun number missing =>
          missing.imp fun payload lost => List.mem_append_left _ lost
      · intro other member
        rw [List.take_append_of_le_length (lag_le accounts)] at member
        exact inPlace.reported other member
      · intro other member
        unfold unreported at member
        rw [List.drop_append_of_le_length (lag_le accounts)] at member
        rcases List.mem_append.mp member with old | last
        · exact inPlace.toReport other old
        · rw [List.mem_singleton.mp last]
          exact Nat.le_trans within new
  · exact inPlace

/-- The counted refused events are next in the order of sending. -/
theorem counted_next (inPlace : InPlace channel) (numbered : Numbered channel)
    (allowed : LagInPlace channel) :
    ((unreported channel).take channel.skipped).map Prod.snd =
      List.range' (channel.since + covered channel.items)
        ((unreported channel).take channel.skipped).length := by
  have parts := List.take_append_drop channel.skipped (unreported channel)
  have ascending : ((unreported channel).map Prod.snd).Pairwise (· < ·) :=
    numbered.lostAscending.sublist ((List.drop_sublist _ _).map _)
  rw [← parts, List.map_append, List.pairwise_append] at ascending
  obtain ⟨sorted, _, before⟩ := ascending
  have inside : ∀ number ∈ ((unreported channel).take channel.skipped).map Prod.snd,
      channel.since + covered channel.items ≤ number ∧
        number < channel.since + channel.offered.length := by
    intro number member
    obtain ⟨event, counted, rfl⟩ := List.mem_map.mp member
    have lost := List.mem_of_mem_take counted
    exact ⟨inPlace.toReport event lost,
      (numbered.inside event (Or.inr (List.mem_of_mem_drop lost))).2⟩
  have segment := initial_segment sorted inside ?_
  · rw [List.length_map] at segment
    exact segment
  · intro number low high
    rcases numbered.complete number (by omega) high with
      ⟨event, given, same⟩ | ⟨event, queued, same⟩ | ⟨event, lost, same⟩
    · have := inPlace.behind event given
      omega
    · refine Or.inr fun listed member => ?_
      obtain ⟨counted, isCounted, rfl⟩ := List.mem_map.mp member
      exact same ▸ allowed counted isCounted event queued
    · rw [← List.take_append_drop (lagSum channel.items) channel.refused] at lost
      rcases List.mem_append.mp lost with reported | toReport
      · have := inPlace.reported event reported
        omega
      · rw [show channel.refused.drop (lagSum channel.items) = _ from parts.symm] at toReport
        rcases List.mem_append.mp toReport with counted | rest
        · exact Or.inl (same ▸ List.mem_map_of_mem counted)
        · exact Or.inr fun listed member => same ▸ before listed member event.2
            (List.mem_map_of_mem rest)

theorem counted_length (accounts : Accounts log due subscribed uncounted channel) :
    ((unreported channel).take channel.skipped).length = channel.skipped := by
  have := accounts.counted
  unfold unreported
  rw [List.length_take, List.length_drop]
  omega

theorem InPlace.takeSkipped (inPlace : InPlace channel) (numbered : Numbered channel)
    (accounts : Accounts log due subscribed uncounted channel) (allowed : LagInPlace channel) :
    InPlace channel.takeSkipped := by
  unfold Channel.takeSkipped
  split
  · next positive =>
    have segment := counted_next inPlace numbered allowed
    have length := counted_length accounts
    rw [length] at segment
    have inSegment : ∀ number, number ∈ ((unreported channel).take channel.skipped).map Prod.snd ↔
        channel.since + covered channel.items ≤ number ∧
          number < channel.since + covered channel.items + channel.skipped := by
      intro number
      rw [segment, List.mem_range'_1]
    have span : covered (channel.items ++ [.lagged channel.skipped]) =
        covered channel.items + channel.skipped := by simp [covered, Item.span]
    have sum : lagSum (channel.items ++ [.lagged channel.skipped]) =
        lagSum channel.items + channel.skipped := by simp [lagSum, Item.missed]
    have same : delivered (channel.items ++ [.lagged channel.skipped]) =
        delivered channel.items := by simp [delivered]
    have lastCounted : ∃ event ∈ (unreported channel).take channel.skipped,
        event.2 = channel.since + covered channel.items + channel.skipped - 1 := by
      have member := (inSegment
        (channel.since + covered channel.items + channel.skipped - 1)).mpr (by omega)
      obtain ⟨event, counted, number⟩ := List.mem_map.mp member
      exact ⟨event, counted, number⟩
    obtain ⟨last, lastIn, lastNumber⟩ := lastCounted
    refine ⟨(placed_lagged inPlace.placed).mpr ?_, ?_, ?_, ?_, ?_⟩
    · intro offset below
      have member := (inSegment (channel.since + covered channel.items + offset)).mpr (by omega)
      obtain ⟨event, counted, number⟩ := List.mem_map.mp member
      refine ⟨event.1, ?_⟩
      rw [← number]
      exact List.mem_of_mem_drop (List.mem_of_mem_take counted)
    · intro event given
      rw [same] at given
      have := inPlace.behind event given
      rw [span]
      simp only
      omega
    · intro event reported
      rw [sum, List.take_add] at reported
      rw [span]
      simp only
      rcases List.mem_append.mp reported with old | new
      · have := inPlace.reported event old
        omega
      · have := (inSegment event.2).mp (List.mem_map_of_mem new)
        omega
    · intro event queued
      have := allowed last lastIn event queued
      rw [span]
      simp only
      omega
    · intro event rest
      unfold unreported at rest
      rw [sum, ← List.drop_drop] at rest
      have ascending : ((unreported channel).map Prod.snd).Pairwise (· < ·) :=
        numbered.lostAscending.sublist ((List.drop_sublist _ _).map _)
      rw [← List.take_append_drop channel.skipped (unreported channel), List.map_append,
        List.pairwise_append] at ascending
      have := ascending.2.2 last.2 (List.mem_map_of_mem lastIn) event.2 (List.mem_map_of_mem rest)
      rw [span]
      simp only
      omega
  · exact { inPlace with }

/-- The head of the queue is next in the order of sending. -/
theorem head_next (inPlace : InPlace channel) (numbered : Numbered channel) {event : ε × ℕ}
    {rest : List (ε × ℕ)} (queued : channel.queue = event :: rest)
    (allowed : NextInPlace channel) : event.2 = channel.since + covered channel.items := by
  have member : event ∈ channel.queue := queued ▸ List.mem_cons_self
  have above := inPlace.ahead event member
  have high := (numbered.inside event (Or.inl member)).2
  have ascending := numbered.keptAscending
  rw [queued, List.map_append, List.map_cons, List.pairwise_append, List.pairwise_cons] at ascending
  rcases numbered.complete (channel.since + covered channel.items) (by omega) (by omega) with
    ⟨other, given, same⟩ | ⟨other, inQueue, same⟩ | ⟨other, lost, same⟩
  · have := inPlace.behind other given
    omega
  · rw [queued] at inQueue
    rcases List.mem_cons.mp inQueue with rfl | later
    · exact same
    · have := ascending.2.1.1 other.2 (List.mem_map_of_mem later)
      omega
  · rw [← List.take_append_drop (lagSum channel.items) channel.refused] at lost
    rcases List.mem_append.mp lost with reported | toReport
    · have := inPlace.reported other reported
      omega
    · have := allowed other toReport event (by rw [queued]; rfl)
      omega

theorem InPlace.recv (inPlace : InPlace channel) (numbered : Numbered channel)
    (allowed : NextInPlace channel) (senderAlive : Bool) : InPlace (channel.recv senderAlive) := by
  unfold Channel.recv
  split
  · next event rest queued =>
    have place := head_next inPlace numbered queued allowed
    have ascending := numbered.keptAscending
    rw [queued, List.map_append, List.map_cons, List.pairwise_append,
      List.pairwise_cons] at ascending
    have span : covered (channel.items ++ [.event event.1 event.2]) = covered channel.items + 1 := by
      simp [covered, Item.span]
    have sum : lagSum (channel.items ++ [.event event.1 event.2]) = lagSum channel.items := by
      simp [lagSum, Item.missed]
    refine ⟨(placed_event inPlace.placed).mpr place, ?_, ?_, ?_, ?_⟩
    · intro other given
      rw [delivered_append] at given
      rw [span]
      simp only
      rcases List.mem_append.mp given with old | new
      · have := inPlace.behind other old
        omega
      · rw [List.mem_singleton.mp new]
        omega
    · intro other reported
      rw [sum] at reported
      have := inPlace.reported other reported
      rw [span]
      simp only
      omega
    · intro other later
      have := ascending.2.1.1 other.2 (List.mem_map_of_mem later)
      rw [span]
      simp only
      omega
    · intro other toReport
      unfold unreported at toReport
      rw [sum] at toReport
      have := allowed other toReport event (by rw [queued]; rfl)
      rw [span]
      simp only
      omega
  · split
    · exact { inPlace with }
    · have span : covered (channel.items ++ [.closed]) = covered channel.items := by
        simp [covered, Item.span]
      have sum : lagSum (channel.items ++ [.closed]) = lagSum channel.items := by
        simp [lagSum, Item.missed]
      have same : delivered (channel.items ++ [.closed]) = delivered channel.items := by
        simp [delivered]
      refine ⟨placed_closed inPlace.placed, ?_, ?_, ?_, ?_⟩
      · rw [same, span]
        exact inPlace.behind
      · rw [sum, span]
        exact inPlace.reported
      · rw [span]
        exact inPlace.ahead
      · unfold unreported
        rw [sum, span]
        exact inPlace.toReport

/-! ## Runs -/

variable {hub after : Hub ε} {capacity : ℕ} {label : Label ε}

/-- Every report of every stream stands where it belongs. -/
def AllInPlace (hub : Hub ε) : Prop :=
  ∀ (index : ℕ) (channel : Channel ε), hub.channels[index]? = some channel → InPlace channel

/-- An event due to a live subscriber comes after all it was offered. -/
theorem due_later {index : ℕ} {event : ε × ℕ} (sound : Sound hub) (due : hub.due index = [event])
    (subscribed : index ∈ hub.fanout.subscribers) (present : hub.channels[index]? = some channel)
    (alive : channel.receiverAlive = true) :
    channel.since + channel.offered.length ≤ event.2 := by
  have accounts := sound.accounts index channel present
  rw [due] at accounts
  have current := accounts.current alive subscribed
  have last : (channel.offered ++ [event])[channel.offered.length]? = some event :=
    List.getElem?_concat_length
  rw [current] at last
  have number := congrArg (Option.map Prod.snd) last
  rw [← List.getElem?_map, segment_numbers, Option.map_some, List.getElem?_eq_some_iff] at number
  obtain ⟨bound, same⟩ := number
  rw [List.getElem_range', Nat.one_mul] at same
  exact Nat.le_of_eq same

theorem all_in_place_step (sound : Sound hub) (inPlace : AllInPlace hub)
    (allowed : InOrder hub label) (taken : step capacity hub label = some after) :
    AllInPlace after := by
  intro index channel found
  have changed := step_channel sound.registered taken found
  cases present : hub.channels[index]? with
  | none =>
    rw [present] at changed
    cases changed
    exact InPlace.opened _
  | some before =>
    have accounts := sound.accounts index before present
    have numbered := Numbered.of_accounts accounts
    have was := inPlace index before present
    rw [present] at changed
    cases changed with
    | same => exact was
    | offered _ event due subscribed =>
      exact was.offered accounts (due_later sound due subscribed present) numbered
    | counted => exact { was with }
    | skipTaken _ polled =>
      subst polled
      exact was.takeSkipped numbered accounts (allowed before present)
    | received _ senderAlive polled =>
      subst polled
      exact was.recv numbered (allowed before present) senderAlive
    | dropped => exact { was with }

theorem in_place_of_reachable (reached : Reachable (machine ε capacity) InOrder hub) :
    Sound hub ∧ AllInPlace hub := by
  have invariant : Inductive (machine ε capacity) InOrder (fun hub => Sound hub ∧ AllInPlace hub) :=
    ⟨⟨Sound.new, fun index channel present => by simp [machine, Hub.new] at present⟩,
      fun held allowed taken =>
        ⟨sound_step held.1 taken, all_in_place_step held.1 held.2 allowed taken⟩⟩
  exact invariant.holds reached

/-- A report of missed events out of place breaks the contract. -/
theorem lag_in_place_of_contract (inPlace : InPlace channel) (numbered : Numbered channel)
    (contract : Contract log channel.takeSkipped) : LagInPlace channel := by
  intro lost counted kept queued
  by_cases positive : 0 < channel.skipped
  · unfold Channel.takeSkipped at contract
    rw [if_pos positive] at contract
    have missing := contract.atGaps channel.items channel.skipped [] rfl
    have ahead := inPlace.ahead kept queued
    have span := covered_eq channel.items
    have full : ∀ offset, offset < channel.skipped →
        channel.since + covered channel.items + offset ∈
          (unreported channel).map Prod.snd := by
      intro offset below
      obtain ⟨payload, member⟩ := missing offset below
      rw [← List.take_append_drop (lagSum channel.items) channel.refused] at member
      rcases List.mem_append.mp member with reported | toReport
      · have := inPlace.reported _ reported
        simp only at this
        omega
      · refine List.mem_map.mpr ⟨_, toReport, ?_⟩
        simp only
        omega
    have ascending : ((unreported channel).map Prod.snd).Pairwise (· < ·) :=
      numbered.lostAscending.sublist ((List.drop_sublist _ _).map _)
    have fromHere : ∀ number ∈ (unreported channel).map Prod.snd,
        channel.since + covered channel.items ≤ number := by
      intro number member
      obtain ⟨event, listed, rfl⟩ := List.mem_map.mp member
      exact inPlace.toReport event listed
    have segment := take_segment ascending fromHere full
    rw [← List.map_take] at segment
    have below : lost.2 < channel.since + covered channel.items + channel.skipped := by
      have member : lost.2 ∈ ((unreported channel).take channel.skipped).map Prod.snd :=
        List.mem_map_of_mem counted
      rw [segment, List.mem_range'_1] at member
      exact member.2
    by_contra before
    -- The buffered event would be among the missing ones.
    obtain ⟨payload, member⟩ := missing (kept.2 - (channel.since + covered channel.items)) (by omega)
    refine numbered.apart kept queued _ member ?_
    simp only
    omega
  · have none' : channel.skipped = 0 := by omega
    rw [none', List.take_zero] at counted
    cases counted

/-- An event taken out of place breaks the contract. -/
theorem next_in_place_of_contract (inPlace : InPlace channel) (numbered : Numbered channel)
    {senderAlive : Bool} (contract : Contract log (channel.recv senderAlive)) :
    NextInPlace channel := by
  intro lost toReport first head
  cases queued : channel.queue with
  | nil =>
    rw [queued] at head
    cases head
  | cons event rest =>
    rw [queued] at head
    obtain rfl : event = first := Option.some.inj head
    have received : channel.recv senderAlive = { channel with
        queue := rest
        taking := false
        items := channel.items ++ [.event event.1 event.2] } := by
      unfold Channel.recv
      rw [queued]
    rw [received] at contract
    have place := contract.upTo channel.items event.1 event.2 [] rfl
    have span := covered_eq channel.items
    have ahead := inPlace.toReport lost toReport
    have apart := numbered.apart event (queued ▸ List.mem_cons_self) lost
      (List.mem_of_mem_drop toReport)
    simp only at place
    omega

/-- In a run whose polls are in order every stream keeps the contract, and the next step keeps it
exactly when it is in order too. -/
theorem streams_keep_contract
    (reached : Reachable (machine ε eventChannelCapacity) InOrder hub) :
    (∀ (index : ℕ) (channel : Channel ε), hub.channels[index]? = some channel →
        Contract hub.sent.zipIdx channel) ∧
      ∀ label after, step eventChannelCapacity hub label = some after →
        ((∀ (index : ℕ) (channel : Channel ε), after.channels[index]? = some channel →
            Contract after.sent.zipIdx channel) ↔ InOrder hub label) := by
  obtain ⟨sound, inPlace⟩ := in_place_of_reachable reached
  have keeps : ∀ {hub : Hub ε}, Sound hub → AllInPlace hub → ∀ (index : ℕ) (channel : Channel ε),
      hub.channels[index]? = some channel → Contract hub.sent.zipIdx channel :=
    fun sound inPlace index channel present =>
      (inPlace index channel present).contract (sound.accounts index channel present)
  refine ⟨keeps sound inPlace, fun label after taken => ⟨fun contract => ?_, fun allowed => ?_⟩⟩
  · have polled : ∀ (index : ℕ) (channel : Channel ε), hub.channels[index]? = some channel →
        InPlace channel ∧ Numbered channel := fun index channel present =>
      ⟨inPlace index channel present, Numbered.of_accounts (sound.accounts index channel present)⟩
    cases label with
    | pollSkipped index =>
      intro channel present
      simp only [step] at taken
      split at taken
      · obtain rfl := (Option.some.inj taken).symm
        obtain ⟨was, numbered⟩ := polled index channel present
        exact lag_in_place_of_contract was numbered
          (contract index _ ((update_channel present).mpr (Or.inl ⟨rfl, rfl⟩)))
      · cases taken
    | pollQueue index =>
      intro channel present
      simp only [step] at taken
      split at taken
      · obtain rfl := (Option.some.inj taken).symm
        obtain ⟨was, numbered⟩ := polled index channel present
        exact next_in_place_of_contract was numbered
          (contract index _ ((update_channel present).mpr (Or.inl ⟨rfl, rfl⟩)))
      · cases taken
    | _ => trivial
  · exact keeps (sound_step sound taken) (all_in_place_step sound inPlace allowed taken)

/-- One event, sent to one stream and polled. -/
def onePolled : Hub Unit :=
  finalState (machine Unit eventChannelCapacity) InOrder
    [.subscribe, .send (), .deliver, .finish, .pollSkipped 0] (by decide +kernel)

theorem streams_keep_contract_polled :
    (∀ (index : ℕ) (channel : Channel Unit), onePolled.channels[index]? = some channel →
        Contract onePolled.sent.zipIdx channel) ∧
      InOrder onePolled (.pollQueue 0) := by
  have reached : Reachable (machine Unit eventChannelCapacity) InOrder onePolled :=
    final_state_reachable _ _ _ _
  exact ⟨(streams_keep_contract reached).1, by decide +kernel⟩

/-- As long as no queue refused an event every step is in order. -/
theorem in_order_of_nothing_refused
    (kept : ∀ (index : ℕ) (channel : Channel ε), hub.channels[index]? = some channel →
      channel.refused = []) :
    InOrder hub label := by
  have nothing : ∀ (index : ℕ) (channel : Channel ε), hub.channels[index]? = some channel →
      unreported channel = [] := by
    intro index channel present
    rw [unreported, kept index channel present, List.drop_nil]
  cases label with
  | pollSkipped index =>
    intro channel present lost counted
    rw [nothing index channel present, List.take_nil] at counted
    cases counted
  | pollQueue index =>
    intro channel present lost listed
    rw [nothing index channel present] at listed
    cases listed
  | _ => trivial

/-! ## A full queue -/

/-- One stream that was never polled, after `count` events that fit its queue. -/
def filled (count : ℕ) : Hub Unit :=
  let events := (List.replicate count ()).zipIdx
  ⟨⟨[0], false⟩, [⟨events, 0, true, false, false, 0, events, [], []⟩], none,
    List.replicate count ()⟩

/-- The state after one more event was taken for that stream. -/
def offering (count : ℕ) : Hub Unit :=
  { filled count with
    sent := List.replicate count () ++ [()]
    sending := some ⟨((), count), [0], none⟩ }

theorem filled_send (count : ℕ) :
    (machine Unit capacity).step (filled count) (.send ()) = some (offering count) := by
  have sent : (filled count).sent.length = count := List.length_replicate
  simp only [machine, step, Hub.send, sent]
  rfl

theorem filled_reachable (count : ℕ) (room : count ≤ capacity) :
    Reachable (machine Unit capacity) anyStep (filled count) := by
  induction count with
  | zero =>
    have subscribed : (machine Unit capacity).step (machine Unit capacity).init .subscribe =
        some (filled 0) := rfl
    exact .next .start trivial subscribed
  | succ count ih =>
    have offered : Reachable (machine Unit capacity) anyStep (offering count) :=
      .next (ih (by omega)) trivial (filled_send count)
    have length : (List.replicate count ()).zipIdx.length = count := by simp
    have events : (List.replicate count () ++ [()]).zipIdx =
        (List.replicate count ()).zipIdx ++ [((), count)] := by
      rw [zip_idx_grown, List.length_replicate]
    have delivered : (machine Unit capacity).step (offering count) .deliver =
        some { filled (count + 1) with sending := some ⟨((), count), [], none⟩ } := by
      simp only [machine, step, Hub.deliver, offering, filled, Hub.update, Hub.isFull,
        List.replicate_succ', events, List.getElem?_cons_zero]
      simp [Channel.trySend, length, Nat.lt_of_succ_le room]
    have finished : (machine Unit capacity).step { filled (count + 1) with
        sending := some ⟨((), count), [], none⟩ } .finish = some (filled (count + 1)) := rfl
    exact .next (.next offered trivial delivered) trivial finished

/-- The state in which the queue refused one event, with what was counted and reported of it. -/
def overflowed (capacity skipped : ℕ) (items : List (Item Unit)) (sending : Option (Sending Unit)) :
    Hub Unit :=
  let events := (List.replicate capacity ()).zipIdx
  ⟨⟨[0], false⟩,
    [⟨events, skipped, true, false, false, 0, events ++ [((), capacity)], [((), capacity)],
      items⟩],
    sending, List.replicate capacity () ++ [()]⟩

theorem overflowed_reachable (capacity : ℕ) :
    Reachable (machine Unit capacity) anyStep (overflowed capacity 0 [.lagged 1] none) := by
  have offered : Reachable (machine Unit capacity) anyStep (offering capacity) :=
    .next (filled_reachable capacity (Nat.le_refl _)) trivial (filled_send capacity)
  have length : (List.replicate capacity ()).zipIdx.length = capacity := by simp
  have refused : (machine Unit capacity).step (offering capacity) .deliver =
      some (overflowed capacity 0 [] (some ⟨((), capacity), [], some 0⟩)) := by
    simp only [machine, step, Hub.deliver, offering, overflowed, filled, Hub.update, Hub.isFull,
      List.getElem?_cons_zero]
    simp [Channel.trySend, length]
  have counted : (machine Unit capacity).step
      (overflowed capacity 0 [] (some ⟨((), capacity), [], some 0⟩)) .count =
        some (overflowed capacity 1 [] (some ⟨((), capacity), [], none⟩)) := rfl
  have finished : (machine Unit capacity).step
      (overflowed capacity 1 [] (some ⟨((), capacity), [], none⟩)) .finish =
        some (overflowed capacity 1 [] none) := rfl
  have reported : (machine Unit capacity).step (overflowed capacity 1 [] none) (.pollSkipped 0) =
      some (overflowed capacity 0 [.lagged 1] none) := rfl
  exact .next (.next (.next (.next offered trivial refused) trivial counted) trivial finished)
    trivial reported

/-- With any room at all the count stands before events that were not missed. -/
theorem overflowed_misreported {capacity : ℕ} (room : 0 < capacity) (log : List (Unit × ℕ)) :
    ¬ ∀ (index : ℕ) (channel : Channel Unit),
      (overflowed capacity 0 [.lagged 1] none).channels[index]? = some channel →
        Contract log channel := by
  intro keeps
  have contract := keeps 0 _ rfl
  obtain ⟨payload, member⟩ := contract.atGaps [] 1 [] rfl 0 Nat.one_pos
  rw [List.mem_singleton, Prod.mk.injEq] at member
  exact absurd member.2.symm (Nat.pos_iff_ne_zero.mp room)

/-- One event more than the queue holds, then one poll. -/
theorem lag_out_of_place :
    Reachable (machine Unit eventChannelCapacity) anyStep
        (overflowed eventChannelCapacity 0 [.lagged 1] none) ∧
      ¬ ∀ (index : ℕ) (channel : Channel Unit),
        (overflowed eventChannelCapacity 0 [.lagged 1] none).channels[index]? = some channel →
          Contract (overflowed eventChannelCapacity 0 [.lagged 1] none).sent.zipIdx channel := by
  have room : 0 < eventChannelCapacity := by
    unfold eventChannelCapacity
    omega
  exact ⟨overflowed_reachable _, overflowed_misreported room _⟩

end ADesk.Client.StreamContract
