namespace ChipEight.Text

def hexDigit (d : Nat) : Char :=
  if d < 10 then Char.ofNat (48 + d) else Char.ofNat (55 + d)

def hexDigits (width n : Nat) : List Char :=
  (List.range (max width (n.log2 / 4 + 1))).reverse.map fun k => hexDigit (n >>> (4 * k) % 16)

def lowerHexDigits (width n : Nat) : List Char := (hexDigits width n).map Char.toLower

/-- The sign of a negative number counts in the width. -/
def hex (width : Nat) (v : Int) : String :=
  if v < 0 then String.ofList ('-' :: hexDigits (width - 1) v.natAbs)
  else String.ofList (hexDigits width v.toNat)

end ChipEight.Text
