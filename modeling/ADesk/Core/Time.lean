/- ADesk/Core/Time
   digest: Unsigned 64-bit saturation and wrapping, and instants counted in nanoseconds. -/

import Mathlib.Algebra.Group.Nat.Defs

set_option autoImplicit false

namespace ADesk.Core.Time

def u64Max : ℕ := 2 ^ 64 - 1

def saturatingAdd (a b : ℕ) : ℕ := min (a + b) u64Max

def wrappingAdd (a b : ℕ) : ℕ := (a + b) % 2 ^ 64

/-- Nanoseconds of the timer clock since an arbitrary origin. -/
abbrev Instant := ℕ

def nanosPerMilli : ℕ := 1000000

/-- Whole milliseconds since `started`, saturating instead of wrapping. -/
def elapsedMs (started now : Instant) : ℕ := min ((now - started) / nanosPerMilli) u64Max

end ADesk.Core.Time
