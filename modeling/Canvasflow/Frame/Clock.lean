/-!
# Frame clock

The delivery of frames to something that takes them one by one and may fail. A counted delivery
stops at the first failure; a steady one goes on.
-/

namespace Canvasflow.Frame

variable {σ ε : Type}

/-- A receiver of frames, with the number of frames that are complete. -/
structure Clock (σ : Type) where
  target : σ
  frames : Nat

namespace Clock

/-- A clock that has not started. -/
def start (target : σ) : Clock σ :=
  ⟨target, 0⟩

/-- Deliver a number of frames and stop at the first one that fails, which is not complete. -/
def deliver (frame : σ → Except ε Unit × σ) : Nat → Clock σ → Except ε Unit × Clock σ
  | 0, clock => (.ok (), clock)
  | count + 1, clock =>
    match frame clock.target with
    | (.ok (), target) => deliver frame count ⟨target, clock.frames + 1⟩
    | (.error failure, target) => (.error failure, { clock with target := target })

/-- Deliver a number of frames, whether they fail or not. -/
def keepUp (frame : σ → Except ε Unit × σ) : Nat → Clock σ → Clock σ
  | 0, clock => clock
  | count + 1, clock => keepUp frame count ⟨(frame clock.target).2, clock.frames + 1⟩

/-- As many frames are complete as were delivered, if none of them failed. -/
theorem frames_deliver (frame : σ → Except ε Unit × σ) (count : Nat) (clock : Clock σ)
    (h : (deliver frame count clock).1 = .ok ()) :
    (deliver frame count clock).2.frames = clock.frames + count := by
  induction count generalizing clock with
  | zero => rfl
  | succ count ih =>
    rcases hframe : frame clock.target with ⟨_ | _, target⟩
    · simp [deliver, hframe] at h
    · simp only [deliver, hframe] at h ⊢
      exact (ih _ h).trans (Nat.add_right_comm _ _ _)

end Clock

end Canvasflow.Frame
