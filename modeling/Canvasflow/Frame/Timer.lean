/-!
# Frame timing

The time between frames in milliseconds. What programs see is limited, so that a clock that stood
still for a while makes no huge step; the elapsed time itself is kept, too.
-/

namespace Canvasflow.Frame

/-- A timer: the greatest step it reports, the time of the last frame, and the time that had elapsed
then. -/
structure Timer where
  limit : Float
  last? : Option Float
  elapsed : Float
  deriving Repr, Inhabited

namespace Timer

/-- A timer that has seen no frame. -/
def idle (limit : Float) : Timer :=
  ⟨limit, none, 0.0⟩

/-- The step to report: not negative, unless the limit is, and not above the limit. -/
def step (timer : Timer) : Float :=
  let forward := if 0.0 < timer.elapsed then timer.elapsed else 0.0
  if forward < timer.limit then forward else timer.limit

/-- Note a frame. The first one has no time before it. -/
def tick (timer : Timer) (now : Float) : Timer :=
  { timer with
    last? := some now
    elapsed := match timer.last? with
      | none => 0.0
      | some last => now - last }

/-- Forget all frames. -/
def reset (timer : Timer) : Timer :=
  idle timer.limit

end Timer

end Canvasflow.Frame
