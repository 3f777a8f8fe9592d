import ChipEight.Binary64
import ChipEight.Decimal.Shortest

namespace ChipEight

class TimeScale (τ : Type) extends Add τ, Sub τ, Mul τ where
  ofInt : Int → τ
  /-- The integer does not exceed the largest time. -/
  fits : Int → Bool
  inverse : τ → τ
  lt : τ → τ → Bool
  le : τ → τ → Bool
  truncate : τ → Except NotFinite Int
  /-- What rounding may have taken off a whole number of periods. -/
  epsilon : τ
  text : τ → String

namespace TimeScale

variable {τ : Type} [TimeScale τ]

def zero : τ := ofInt 0

def larger (a b : τ) : τ := if lt a b then b else a

def smaller (a b : τ) : τ := if lt b a then b else a

instance : TimeScale Float where
  ofInt := Float.ofInt
  fits n := (Float.ofInt n).isFinite
  inverse x := 1.0 / x
  lt a b := a < b
  le a b := a ≤ b
  truncate := Binary64.truncate
  epsilon := 1e-9
  text := Decimal.text

instance : TimeScale Rat where
  ofInt := Rat.ofInt
  fits _ := true
  inverse x := 1 / x
  lt a b := a < b
  le a b := a ≤ b
  truncate x := .ok (x.num.tdiv x.den)
  epsilon := 1 / 1000000000
  text x := toString x.num ++ "/" ++ toString x.den

end TimeScale

end ChipEight
