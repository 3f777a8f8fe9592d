import ChipEight.TimeScale

namespace ChipEight

inductive Frequency (τ : Type) where
  | whole (hz : Int)
  | measured (hz : τ)

inductive BadFrequency (τ : Type) where
  | notPositive (hz : Frequency τ)
  | tooLarge

structure Cadence (τ : Type) where
  frequency : τ
  period : τ
  reference : τ
  deriving DecidableEq

variable {τ : Type} [TimeScale τ]

namespace Frequency

def positive : Frequency τ → Bool
  | whole hz => 0 < hz
  | measured hz => !TimeScale.le hz TimeScale.zero

def value : Frequency τ → τ
  | whole hz => TimeScale.ofInt hz
  | measured hz => hz

def text : Frequency τ → String
  | whole hz => toString hz
  | measured hz => TimeScale.text hz

end Frequency

def BadFrequency.message : BadFrequency τ → String
  | notPositive hz => "Frecuencia inválida: " ++ hz.text
  | tooLarge => "int too large to convert to float"

namespace Cadence

def ofFrequency? (hz : Frequency τ) (start : τ) : Except (BadFrequency τ) (Cadence τ) :=
  if !hz.positive then .error (.notPositive hz)
  else
    match hz with
    | .whole n =>
      if TimeScale.fits τ n then
        .ok ⟨TimeScale.ofInt n, TimeScale.inverse (TimeScale.ofInt n), start⟩
      else .error .tooLarge
    | .measured f => .ok ⟨f, TimeScale.inverse f, start⟩

def reset (c : Cadence τ) (now : τ) : Cadence τ := { c with reference := now }

/-- The number of full periods since the reference, which moves on by exactly these. A clock that
went back is waited for. -/
def due (c : Cadence τ) (now : τ) : Except NotFinite (Nat × Cadence τ) :=
  match TimeScale.truncate ((now - c.reference) * c.frequency + TimeScale.epsilon) with
  | .error e => .error e
  | .ok n =>
    if n ≤ 0 then .ok (0, c)
    else .ok (n.toNat, { c with reference := c.reference + TimeScale.ofInt n * c.period })

def untilNext (c : Cadence τ) (now : τ) : τ :=
  TimeScale.larger (c.reference + c.period - now) TimeScale.zero

end Cadence

end ChipEight
