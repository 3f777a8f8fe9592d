import ChipEight.Binary64

namespace ChipEight

structure Decimal where
  digits : Nat
  exponent : Int
  deriving DecidableEq, Repr

namespace Decimal

/-- The value `m * 2 ^ q`, with a flag for the values whose neighbour below is half as far away as
their neighbour above. -/
structure Binary where
  m : Nat
  q : Int
  narrow : Bool
  deriving DecidableEq, Repr

def Binary.ofBits (b : UInt64) : Binary :=
  ⟨Binary64.significand b, Binary64.scale b,
    Binary64.fractionBits b == 0 && 1 < Binary64.exponentBits b⟩

/-- The power of ten with a given exponent; one if the exponent is negative. -/
def tenTo (e : Int) : Nat := Nat.pow 10 e.toNat

def order (a : Nat) (i : Int) (n : Nat) (j : Int) : Ordering :=
  compare (a * tenTo i <<< (-j).toNat) (n * tenTo (-i) <<< j.toNat)

/-- The decimal rounds to the value: it lies between the midpoints to the neighbours, or on one of
them if `m` is even. -/
def Binary.readsBack (v : Binary) (d : Decimal) : Bool :=
  let below := order d.digits d.exponent (4 * v.m - if v.narrow then 1 else 2) (v.q - 2)
  let above := order d.digits d.exponent (4 * v.m + 2) (v.q - 2)
  let even := v.m % 2 == 0
  (below == .gt || even && below == .eq) && (above == .lt || even && above == .eq)

def Binary.magnitude (v : Binary) : Int :=
  let estimate := ((v.m.log2 : Int) + v.q) * 30103 / 100000
  (([-1, 0, 1, 2] : List Int).find? fun k => order 1 (estimate + k) v.m v.q == .gt).elim
    (estimate + 3) (estimate + ·)

def Binary.cut (v : Binary) (e : Int) : Nat :=
  (v.m * tenTo (-e) <<< v.q.toNat) / (tenTo e <<< (-v.q).toNat)

/-- The nearer neighbour on the grid of `10 ^ e` that reads back; a tie goes to the even one. -/
def Binary.onGrid? (v : Binary) (e : Int) : Option Decimal :=
  let c := v.cut e
  match v.readsBack ⟨c, e⟩, v.readsBack ⟨c + 1, e⟩ with
  | true, true =>
    match order (2 * c + 1) e (2 * v.m) v.q with
    | .gt => some ⟨c, e⟩
    | .lt => some ⟨c + 1, e⟩
    | .eq => some ⟨c + c % 2, e⟩
  | true, false => some ⟨c, e⟩
  | false, true => some ⟨c + 1, e⟩
  | false, false => none

/-- The first grid of one to seventeen digits that has a decimal which reads back gives it. -/
def Binary.shortest (v : Binary) : Decimal :=
  let k := v.magnitude
  ((List.range 17).findSome? fun (n : Nat) => v.onGrid? (k - 1 - n)).getD ⟨v.cut (k - 17), k - 17⟩

/-- Positional from 10^-4 up to 10^16, with at least one digit after the point, otherwise with a
signed exponent of at least two digits. -/
def layout (d : Decimal) : String :=
  let all := Nat.toDigits 10 d.digits
  let ds := (all.reverse.dropWhile (· == '0')).reverse
  let lead := d.exponent + all.length
  let zeros (n : Int) := List.replicate n.toNat '0'
  if lead ≤ -4 ∨ 16 < lead then
    let e := lead - 1
    let es := Nat.toDigits 10 e.natAbs
    let body := match ds with
      | [c] => [c]
      | c :: rest => c :: '.' :: rest
      | [] => []
    String.ofList (body ++ 'e' :: (if e < 0 then '-' else '+') :: (zeros (2 - es.length) ++ es))
  else if lead ≤ 0 then String.ofList ('0' :: '.' :: (zeros (-lead) ++ ds))
  else if ds.length ≤ lead then String.ofList (ds ++ zeros (lead - ds.length) ++ ['.', '0'])
  else String.ofList (ds.take lead.toNat ++ '.' :: ds.drop lead.toNat)

def text (x : Float) : String :=
  let b := x.toBits
  let sign := if Binary64.negative b then "-" else ""
  match Binary64.special? b with
  | some .undefined => "nan"
  | some .infinite => sign ++ "inf"
  | none =>
    sign ++ if Binary64.significand b = 0 then "0.0" else (Binary.ofBits b).shortest.layout

end Decimal

end ChipEight
