/- ADesk/Core/Position
   digest: Positions inside a window and the output points they name. -/

import ADesk.Core.Event
import Mathlib.Algebra.Order.Ring.Rat

set_option autoImplicit false

namespace ADesk.Core.Position

open ADesk.Core.Geometry (Point Rect clampI32)
open ADesk.Core.Event (Position)

def clamp01 (value : ℚ) : ℚ := max 0 (min value 1)

def clampBetween (value low high : ℤ) : ℤ := max low (min value high)

/-- `Position::resolve`: the output point of a position, clamped into the window. -/
def resolve (position : Position) (window : Rect) : Point :=
  if window.isEmpty then ⟨window.x, window.y⟩
  else
    match position with
    | .pixels p =>
      ⟨clampI32 (clampBetween p.x window.x (window.x + window.w - 1)),
        clampI32 (clampBetween p.y window.y (window.y + window.h - 1))⟩
    | .normalized x y =>
      ⟨clampI32 (window.x + (clamp01 x * (window.w - 1) + 1 / 2).floor),
        clampI32 (window.y + (clamp01 y * (window.h - 1) + 1 / 2).floor)⟩

def contains (window : Rect) (p : Point) : Bool :=
  !window.isEmpty && (decide (window.x ≤ p.x) && decide (p.x < window.x + window.w) &&
    (decide (window.y ≤ p.y) && decide (p.y < window.y + window.h)))

end ADesk.Core.Position
