namespace ChipEight

abbrev Digit := Fin 16

namespace Digit

theorem mod_sixteen_lt (n : Nat) : n % 16 < 16 := Nat.mod_lt n (by decide)

def last (n : Nat) : Digit := ⟨n % 16, mod_sixteen_lt n⟩

def ofInt? (k : Int) : Option Digit :=
  if k < 0 then none else if h : k.toNat < 16 then some ⟨k.toNat, h⟩ else none

end Digit

end ChipEight
