import ChipEight.Binary64

namespace ChipEight.Storage

def limit : Nat := 0x100000000

structure Exhausted where
  bytes : Nat
  deriving DecidableEq, Repr

def Exhausted.message (_ : Exhausted) : String := "Out of memory"

def units : List String := ["bytes", "KiB", "MiB", "GiB", "TiB", "PiB", "EiB"]

/-- The place of the unit for an amount: the last one of which the amount, rounded, is at least
one. -/
def unitOf (bytes : Nat) : Nat :=
  let k := bytes.log2 / 10
  let count := Binary64.roundDiv (Binary64.nearest bytes) (1 <<< (10 * k))
  min (if count = 1024 then k + 1 else k) (units.length - 1)

def pointed (places n : Nat) : String :=
  let digits := Nat.toDigits 10 n
  let whole := digits.length - places
  String.ofList (digits.take whole ++ '.' :: digits.drop whole)

/-- A quotient of at least one in three digits, or in all those before the point, which is always
written. -/
def threeDigits (n d : Nat) : String :=
  let hundredths := Binary64.roundDiv (100 * n) d
  let tenths := Binary64.roundDiv (10 * n) d
  if hundredths < 1000 then pointed 2 hundredths
  else if tenths < 1000 then pointed 1 tenths
  else pointed 0 (Binary64.roundDiv n d)

/-- An amount in its unit. Bytes are written in full; other units count what remains of the amount
in 53 binary digits. -/
def text (bytes : Nat) : String :=
  let k := unitOf bytes
  let count :=
    if k = 0 then toString bytes else threeDigits (Binary64.nearest bytes) (1 <<< (10 * k))
  count ++ " " ++ units.getD k ""

end ChipEight.Storage
