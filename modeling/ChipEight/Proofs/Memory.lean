import ChipEight.Memory
import Mathlib.Tactic

/-!
Access to memory fails exactly outside of it, and a fault names the block that was asked for. A
block that was written is read back, and nothing else changes.
-/

namespace ChipEight

lemma Bytes.getElem?_splice {n : ℕ} (v : Bytes n) (a : ℕ) (bytes : List UInt8) (k : ℕ) :
    (Bytes.splice v a bytes)[k]? =
      if a ≤ k ∧ k < n then (bytes[k - a]?).or v[k]? else v[k]? := by
  induction bytes generalizing v a with
  | nil => simp [Bytes.splice]
  | cons b bs ih =>
    rw [Bytes.splice, ih, Vector.getElem?_setIfInBounds]
    rcases Nat.lt_trichotomy k a with h | rfl | h
    · simp [show ¬ (a + 1 ≤ k) by omega, show ¬ (a ≤ k) by omega, show a ≠ k by omega]
    · by_cases hk : k < n <;> simp [hk]
    · obtain ⟨d, rfl⟩ := Nat.exists_eq_add_of_lt h
      simp [show a + d + 1 - a = d + 1 by omega, show a + d + 1 - (a + 1) = d by omega,
        show a + 1 ≤ a + d + 1 by omega, show a ≤ a + d + 1 by omega,
        show a ≠ a + d + 1 by omega]

lemma Bytes.toList_splice {n a : ℕ} (v : Bytes n) {bytes : List UInt8} (h : a + bytes.length ≤ n) :
    (splice v a bytes).toList = v.toList.take a ++ bytes ++ v.toList.drop (a + bytes.length) := by
  have hv : v.toList.length = n := Vector.length_toList
  have ht : (v.toList.take a).length = a := by
    rw [List.length_take, hv]
    omega
  refine List.ext_getElem? fun k => ?_
  rw [Vector.getElem?_toList, getElem?_splice, ← Vector.getElem?_toList, List.append_assoc]
  rcases lt_or_ge k a with ha | ha
  · rw [if_neg (by omega), List.getElem?_append_left (by omega), List.getElem?_take_of_lt ha]
  · rw [List.getElem?_append_right (by omega), ht]
    rcases lt_or_ge (k - a) bytes.length with hb | hb
    · rw [if_pos (by omega), List.getElem?_append_left hb, List.getElem?_eq_getElem hb,
        Option.some_or]
    · have hk : a + bytes.length + (k - a - bytes.length) = k := by omega
      rw [List.getElem?_append_right hb, List.getElem?_drop, hk, List.getElem?_eq_none hb,
        Option.none_or, ite_self]

namespace Memory

variable {m m' : Memory} {addr size : ℤ} {f : Fault}

lemma readBlock_eq_error_iff :
    m.readBlock addr size = .error f ↔ ¬ Within addr size ∧ f = .memory addr size := by
  rw [readBlock]
  split <;> simp_all [eq_comm]

lemma readBlock_eq_ok_iff {bytes : List UInt8} :
    m.readBlock addr size = .ok bytes ↔
      Within addr size ∧ bytes = m.slice addr.toNat size.toNat := by
  rw [readBlock]
  split <;> simp_all [eq_comm]

lemma readWord_eq_error_iff :
    m.readWord addr = .error f ↔ ¬ Within addr 2 ∧ f = .memory addr 2 := by
  rw [readWord]
  split <;> simp_all [eq_comm]

lemma within_of_readWord {w : UInt16} (h : m.readWord addr = .ok w) : Within addr 2 := by
  by_contra hn
  rw [readWord_eq_error_iff.mpr ⟨hn, rfl⟩] at h
  cases h

lemma writeBlock_eq_error_iff {bytes : List UInt8} :
    m.writeBlock addr bytes = .error f ↔
      ¬ Within addr bytes.length ∧ f = .memory addr bytes.length := by
  rw [writeBlock]
  split <;> simp_all [eq_comm]

lemma writeBlock_eq_ok_iff {bytes : List UInt8} :
    m.writeBlock addr bytes = .ok m' ↔
      Within addr bytes.length ∧ m' = ⟨Bytes.splice m.cells addr.toNat bytes⟩ := by
  rw [writeBlock]
  split <;> simp_all [eq_comm]

lemma cell_splice (m : Memory) (a : ℕ) (bytes : List UInt8) {k : ℕ} (hk : k < Memory.size) :
    cell ⟨Bytes.splice m.cells a bytes⟩ k =
      if a ≤ k then (bytes[k - a]?).getD (m.cell k) else m.cell k := by
  have hn : k < 4096 := hk
  have hc : m.cells[k]? = some (m.cell k) := by
    rw [cell, Vector.getElem?_eq_getElem hn]
    rfl
  rw [cell, Bytes.getElem?_splice, hc]
  by_cases ha : a ≤ k
  · simp only [ha, hn, and_self, if_true]
    cases bytes[k - a]? <;> simp
  · simp [ha]

lemma cell_of_size_le (m : Memory) {k : ℕ} (hk : Memory.size ≤ k) : m.cell k = 0 := by
  have hn : 4096 ≤ k := hk
  rw [cell, Vector.getElem?_eq_none hn]
  rfl

lemma cell_writeBlock_outside {bytes : List UInt8} (h : m.writeBlock addr bytes = .ok m') {k : ℕ}
    (hk : (k : ℤ) ∉ Set.Ico addr (addr + bytes.length)) : m'.cell k = m.cell k := by
  obtain ⟨hw, rfl⟩ := writeBlock_eq_ok_iff.mp h
  have ha := hw.1
  rcases lt_or_ge k Memory.size with hs | hs
  · rw [cell_splice m _ _ hs]
    split
    · have hl : bytes.length ≤ k - addr.toNat := by
        rw [Set.mem_Ico] at hk
        omega
      rw [List.getElem?_eq_none hl]
      rfl
    · rfl
  · rw [cell_of_size_le _ hs, cell_of_size_le _ hs]

lemma cell_loadProgram (m : Memory) (program : List UInt8) {k : ℕ} (hk : k < programCapacity) :
    (m.loadProgram program).2.cell (programStart + k) =
      (program[k]?).getD (m.cell (programStart + k)) := by
  have hs : programStart + k < size := by
    simp only [programCapacity, programStart, size] at hk ⊢
    omega
  have ht : (fitting program)[k]? = program[k]? := List.getElem?_take_of_lt hk
  rw [loadProgram, cell_splice m _ _ hs, Nat.add_sub_cancel_left, ht]
  simp

end Memory

end ChipEight
