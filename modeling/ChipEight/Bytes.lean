namespace ChipEight

abbrev Bytes (n : Nat) := Vector UInt8 n

namespace Bytes

/-- Writes a block from position `a` on. What would go past the end is dropped. -/
def splice {n : Nat} (v : Bytes n) (a : Nat) : List UInt8 → Bytes n
  | [] => v
  | b :: bs => splice (v.setIfInBounds a b) (a + 1) bs

end Bytes

end ChipEight
