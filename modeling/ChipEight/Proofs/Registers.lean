import ChipEight.Registers
import Mathlib.Tactic

namespace ChipEight.Registers

variable (r : Registers)

lemma ofInt_natCast (n : ℕ) : UInt16.ofInt n = UInt16.ofNat n := by
  have h : ((n : ℤ) % 2 ^ 16).toNat = n % 2 ^ 16 := by omega
  rw [UInt16.ofInt, h]
  exact UInt16.ofNat_mod_size

lemma ofInt_toNat (a : UInt16) : UInt16.ofInt a.toNat = a := by
  rw [ofInt_natCast, UInt16.ofNat_toNat]

lemma jump_toNat (a : UInt16) : r.jump a.toNat = { r with pc := a } := by
  rw [jump, ofInt_toNat]

lemma pc_jump (n : ℕ) : (r.jump n).pc = .ofNat n := ofInt_natCast n

lemma pc_advance (n : ℤ) : (r.advance n).pc = r.pc + UInt16.ofInt (2 * n) := by
  simp only [advance, jump, UInt16.ofInt_add, ofInt_toNat]

lemma advance_eq (n : ℤ) : r.advance n = { r with pc := r.pc + UInt16.ofInt (2 * n) } := by
  rw [← pc_advance]
  rfl

lemma advance_advance (m n : ℤ) : (r.advance m).advance n = r.advance (m + n) := by
  simp only [advance_eq, UInt16.add_assoc, ← UInt16.ofInt_add, ← mul_add]

lemma advance_back (n : ℤ) : (r.advance n).advance (-n) = r := by
  have h : UInt16.ofInt (2 * 0) = 0 := rfl
  rw [advance_advance, add_neg_cancel, advance_eq, h, UInt16.add_zero]

lemma pc_advance_one {r : Registers} (h : r.pc.toNat + 2 < 2 ^ 16) :
    (r.advance 1).pc.toNat = r.pc.toNat + 2 := by
  have hp : (r.advance 1).pc = (r.jump (r.pc.toNat + 2 : ℕ)).pc := rfl
  rw [hp, pc_jump, UInt16.toNat_ofNat_of_lt' h]

end ChipEight.Registers
