/- ADesk/Observer/ClockDomain
   digest: The clock that bridges event timestamps and timer instants never moves backwards. -/

import ADesk.Core.Time

set_option autoImplicit false

namespace ADesk.Observer.ClockDomain

open ADesk.Core.Time

structure Clock where
  anchorTsMs : ℕ
  anchorInstant : Instant

namespace Clock

def new (now : Instant) : Clock := ⟨0, now⟩

/-- Current time in the event timestamp domain. -/
def nowMs (clock : Clock) (now : Instant) : ℕ :=
  saturatingAdd clock.anchorTsMs (elapsedMs clock.anchorInstant now)

/-- Advances the anchor when the timestamp is ahead of the current estimate. -/
def observeTs (clock : Clock) (now : Instant) (tsMs : ℕ) : Clock :=
  if tsMs > clock.nowMs now then ⟨tsMs, now⟩ else clock

/-- The instant at which the timestamp is reached; past timestamps saturate. -/
def deadline (clock : Clock) (now : Instant) (tsMs : ℕ) : Instant :=
  clock.anchorInstant + (tsMs - clock.nowMs now) * nanosPerMilli

end Clock

theorem elapsed_ms_later {started earlier later : Instant} (order : earlier ≤ later) :
    elapsedMs started earlier ≤ elapsedMs started later := by
  have quotient := Nat.div_le_div_right (c := nanosPerMilli) (Nat.sub_le_sub_right order started)
  unfold elapsedMs
  omega

theorem now_ms_later (clock : Clock) {earlier later : Instant} (order : earlier ≤ later) :
    clock.nowMs earlier ≤ clock.nowMs later := by
  have elapsed : elapsedMs clock.anchorInstant earlier ≤ elapsedMs clock.anchorInstant later :=
    elapsed_ms_later order
  unfold Clock.nowMs saturatingAdd
  omega

/-- Two truncations lose less than one millisecond more than one. -/
theorem split_millis (started middle later : ℕ) :
    (later - started) / nanosPerMilli ≤
      (later - middle) / nanosPerMilli + (middle - started) / nanosPerMilli + 1 := by
  unfold nanosPerMilli
  omega

theorem saturated_ahead {anchor timestamp whole first rest : ℕ} (split : whole ≤ rest + first + 1)
    (ahead : saturatingAdd anchor (min first u64Max) < timestamp) :
    saturatingAdd anchor (min whole u64Max) ≤ saturatingAdd timestamp (min rest u64Max) := by
  unfold saturatingAdd at ahead ⊢
  omega

/-- Adopting a timestamp moves the estimate of no later instant backwards: the milliseconds that
two truncations lose are fewer than the timestamp is ahead. -/
theorem observe_ts_ahead (clock : Clock) (now later : Instant) (tsMs : ℕ) :
    clock.nowMs later ≤ (clock.observeTs now tsMs).nowMs later := by
  unfold Clock.observeTs
  split
  · next ahead =>
    exact saturated_ahead (split_millis clock.anchorInstant now later) ahead
  · exact Nat.le_refl _

/-- Neither an observed timestamp nor the passing of time moves the estimate backwards. -/
theorem now_ms_mono (clock : Clock) {earlier later : Instant} (order : earlier ≤ later)
    (tsMs : ℕ) : clock.nowMs earlier ≤ (clock.observeTs earlier tsMs).nowMs later :=
  Nat.le_trans (now_ms_later clock order) (observe_ts_ahead clock earlier later tsMs)

end ADesk.Observer.ClockDomain
