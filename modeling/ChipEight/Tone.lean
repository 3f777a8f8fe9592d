import ChipEight.Binary64
import ChipEight.Report
import ChipEight.Storage
import ChipEight.Word64

namespace ChipEight

structure SquareWave where
  amplitude : Int
  high : Nat
  low : Nat
  deriving DecidableEq, Repr

inductive ToneError where
  | noFrequency
  | noAmplitude (e : NotFinite)
  | tooLong (period : Nat)
  | tooBig (period : Nat)
  | tooLoud (sample : Int)
  deriving DecidableEq, Repr

def sampleBytes : Nat := 2

def ToneError.message : ToneError → String
  | noFrequency => "integer division or modulo by zero"
  | noAmplitude e => e.message
  | tooLong period =>
    if Word64.signed period then
      "array is too big; `arr.size * arr.dtype.itemsize` is larger than the maximum possible size."
    else "Maximum allowed dimension exceeded"
  | tooBig period =>
    "Unable to allocate " ++ Storage.text (sampleBytes * period) ++ " for an array with shape (" ++
      toString period ++ ",) and data type int16"
  | tooLoud sample => Word64.misfit sample "int16"

namespace SquareWave

def defaultFrequency : Int := 440

def defaultSampleRate : Int := 22050

def defaultVolume : Float := 0.25

def peak : Int := 32767

def fits (sample : Int) : Bool := -peak - 1 ≤ sample && sample ≤ peak

/-- A period has a whole number of samples, at least two. An odd one out is low. -/
def ofFrequency? (frequency sampleRate : Int) (volume : Float) : Except ToneError SquareWave :=
  if frequency = 0 then .error .noFrequency
  else
    let period := (max (sampleRate.fdiv frequency) 2).toNat
    match Binary64.truncate (Float.ofInt peak * volume) with
    | .error e => .error (.noAmplitude e)
    | .ok amplitude =>
      if !Word64.signed (sampleBytes * period) then .error (.tooLong period)
      else if Storage.limit < sampleBytes * period then .error (.tooBig period)
      else if !fits amplitude then .error (.tooLoud amplitude)
      else if !fits (-amplitude) then .error (.tooLoud (-amplitude))
      else .ok ⟨amplitude, period / 2, period - period / 2⟩

def stretches (w : SquareWave) : List (Int × Nat) :=
  if w.amplitude = 0 then [(0, w.high + w.low)]
  else [(w.amplitude, w.high), (-w.amplitude, w.low)]

def samples (w : SquareWave) : List Int :=
  w.stretches.flatMap fun (sample, length) => List.replicate length sample

end SquareWave

inductive SoundDevice where
  | missing (reason : String)
  | present (channels : Nat)
  deriving DecidableEq, Repr

structure Beeper where
  wave : Option SquareWave
  channels : Nat
  playing : Bool
  deriving DecidableEq, Repr

namespace Beeper

def silent : Beeper := ⟨none, 0, false⟩

def enabled (b : Beeper) : Bool := b.wave.isSome

/-- A missing device is no error; the wave is not even computed. -/
def open? (frequency : Int) : SoundDevice → Except ToneError (List Report × Beeper)
  | .missing reason => .ok ([.soundMissing reason], silent)
  | .present channels =>
    match SquareWave.ofFrequency? frequency SquareWave.defaultSampleRate
        SquareWave.defaultVolume with
    | .error e => .error e
    | .ok wave => .ok ([.soundReady frequency channels], ⟨some wave, channels, false⟩)

def set (b : Beeper) (on : Bool) : Beeper := if b.enabled then { b with playing := on } else b

def close (b : Beeper) : Beeper := if b.enabled then silent else b

def frames (b : Beeper) : Option (List (List Int)) :=
  b.wave.map fun w => w.samples.map (List.replicate b.channels ·)

end Beeper

end ChipEight
