import ChipEight.Cadence
import ChipEight.Timer

namespace ChipEight

structure Schedule (τ : Type) where
  /-- The reading up to which the counters have counted. -/
  countedTo : τ
  instructions : Option (Cadence τ)
  frames : Cadence τ

namespace Schedule

variable {τ : Type} [TimeScale τ]

def defaultInstructionRate : Int := 700

def defaultFrameRate : Int := 60

def batchLimit : Nat := 1000

def start? (now : τ) (instructionRate : Option Int) (frameRate : Int) :
    Except (BadFrequency τ) (Schedule τ) := do
  let instructions ← match instructionRate with
    | none | some 0 => pure none
    | some hz => some <$> Cadence.ofFrequency? (.whole hz) now
  let frames ← Cadence.ofFrequency? (.whole frameRate) now
  return ⟨now, instructions, frames⟩

def restart (s : Schedule τ) (now : τ) : Schedule τ :=
  ⟨now, s.instructions.map (·.reset now), s.frames.reset now⟩

/-- Lets the counters take in the time since they last did, even if they fail. -/
def advance (s : Schedule τ) (t : Timer τ) (now : τ) :
    Outcome NotFinite (Schedule τ × Timer τ) Nat :=
  match t.tick (now - s.countedTo) with
  | .done n t => .done n ({ s with countedTo := now }, t)
  | .failed e t => .failed e ({ s with countedTo := now }, t)

def instructionsDue (s : Schedule τ) (now : τ) : Except NotFinite (Nat × Schedule τ) :=
  match s.instructions with
  | none => .ok (1, s)
  | some c =>
    match c.due now with
    | .error e => .error e
    | .ok (n, c) => .ok (min n batchLimit, { s with instructions := some c })

def frameDue (s : Schedule τ) (now : τ) : Except NotFinite (Bool × Schedule τ) :=
  match s.frames.due now with
  | .error e => .error e
  | .ok (n, c) => .ok (0 < n, { s with frames := c })

def idleTime (s : Schedule τ) (now : τ) : τ :=
  match s.instructions with
  | none => s.frames.untilNext now
  | some c => TimeScale.smaller (s.frames.untilNext now) (c.untilNext now)

end Schedule

end ChipEight
