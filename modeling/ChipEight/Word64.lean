namespace ChipEight.Word64

def signed (i : Int) : Bool := -0x8000000000000000 ≤ i && i < 0x8000000000000000

def unsigned (i : Int) : Bool := 0 ≤ i && i < 0x10000000000000000

/-- What is said of an integer that does not fit into a cell of a named size; one that does not even
fit into a word is not shown. -/
def misfit (i : Int) (cell : String) : String :=
  if signed i then "Python integer " ++ toString i ++ " out of bounds for " ++ cell
  else "Python int too large to convert to C long"

end ChipEight.Word64
