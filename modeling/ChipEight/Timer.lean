import ChipEight.Outcome
import ChipEight.TimeScale

/-!
The delay and sound counters. Both go down to zero by one sixty times a second; time that does not
fill a sixtieth is kept for later.
-/

namespace ChipEight

structure Timer (τ : Type) where
  delay : UInt8
  sound : UInt8
  accumulator : τ
  deriving DecidableEq

namespace Timer

variable {τ : Type} [TimeScale τ]

def frequency : τ := TimeScale.ofInt 60

def period : τ := TimeScale.inverse frequency

def stopped : Timer τ := ⟨0, 0, TimeScale.zero⟩

def countDown (counter : UInt8) (n : Nat) : UInt8 := UInt8.ofNat (counter.toNat - n)

def steps (t : Timer τ) (n : Nat) : Timer τ :=
  { t with delay := countDown t.delay n, sound := countDown t.sound n }

def step (t : Timer τ) : Timer τ := t.steps 1

/-- Takes in the time elapsed and steps once for every full period; the answer is their number.
Time that does not pass changes nothing. -/
def tick (t : Timer τ) (elapsed : τ) : Outcome NotFinite (Timer τ) Nat :=
  if TimeScale.le elapsed TimeScale.zero then .done 0 t
  else
    let total := t.accumulator + elapsed
    let t := { t with accumulator := total }
    match TimeScale.truncate (total * frequency + TimeScale.epsilon) with
    | .error e => .failed e t
    | .ok n =>
      if n = 0 then .done 0 t
      else
        let rest := TimeScale.larger (total - TimeScale.ofInt n * period) TimeScale.zero
        .done n.toNat ({ t with accumulator := rest }.steps n.toNat)

def writeDelay (t : Timer τ) (value : Int) : Timer τ := { t with delay := UInt8.ofInt value }

def writeSound (t : Timer τ) (value : Int) : Timer τ := { t with sound := UInt8.ofInt value }

def sounding (t : Timer τ) : Bool := t.sound != 0

end Timer

end ChipEight
