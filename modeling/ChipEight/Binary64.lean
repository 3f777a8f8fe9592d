namespace ChipEight

inductive NotFinite where
  | infinite
  | undefined
  deriving DecidableEq, Repr

def NotFinite.message : NotFinite → String
  | infinite => "cannot convert float infinity to integer"
  | undefined => "cannot convert float NaN to integer"

namespace Binary64

def exponentBits (b : UInt64) : Nat := ((b >>> 52) &&& 0x7FF).toNat

def fractionBits (b : UInt64) : Nat := (b &&& 0xFFFFFFFFFFFFF).toNat

def negative (b : UInt64) : Bool := b >>> 63 != 0

/-- The magnitude of a finite number is `significand * 2 ^ scale`. -/
def significand (b : UInt64) : Nat :=
  if exponentBits b = 0 then fractionBits b else 0x10000000000000 + fractionBits b

def scale (b : UInt64) : Int :=
  if exponentBits b = 0 then -1074 else (exponentBits b : Int) - 1075

def special? (b : UInt64) : Option NotFinite :=
  if exponentBits b ≠ 0x7FF then none
  else if fractionBits b = 0 then some .infinite
  else some .undefined

def truncate (x : Float) : Except NotFinite Int :=
  let b := x.toBits
  match special? b with
  | some e => .error e
  | none =>
    let n := (significand b <<< (scale b).toNat) >>> (-scale b).toNat
    .ok (if negative b then -n else n)

/-- The integer nearest to a quotient; a half goes to the even neighbour. -/
def roundDiv (n d : Nat) : Nat :=
  match compare (2 * (n % d)) d with
  | .lt => n / d
  | .eq => n / d + n / d % 2
  | .gt => n / d + 1

/-- The number of 53 binary digits that is nearest to an integer. -/
def nearest (n : Nat) : Nat :=
  let excess := n.log2 - 52
  roundDiv n (1 <<< excess) <<< excess

end Binary64

end ChipEight
