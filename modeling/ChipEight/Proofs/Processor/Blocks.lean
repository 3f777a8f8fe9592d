import ChipEight.Proofs.Processor.Ownership

/-!
Blocks of registers. V0 to Vx are saved from the index on and loaded from there; the two undo each
other, whatever happens in between to the registers and outside of the block.
-/

namespace ChipEight

namespace Registers

lemma getElem?_upTo (r : Registers) {x k : Digit} (hk : k ≤ x) :
    (r.upTo x)[k.val]? = some (r.get k) := by
  have hl : k.val < x.val + 1 := Nat.lt_succ_of_le hk
  rw [upTo, List.getElem?_take_of_lt hl, Vector.getElem?_toList,
    Vector.getElem?_eq_getElem k.isLt]
  rfl

end Registers

namespace Memory

variable {m m' : Memory}

lemma getElem?_slice (m : Memory) (a : ℕ) {n k : ℕ} (hk : k < n) :
    (m.slice a n)[k]? = some (m.cell (a + k)) := by
  simp [slice, hk]

lemma ext_cell (h : ∀ k < Memory.size, m.cell k = m'.cell k) : m = m' := by
  cases m with
  | mk cells =>
    cases m' with
    | mk cells' =>
      refine congrArg mk (Vector.ext fun k hk => ?_)
      have hc := h k hk
      rw [cell, cell] at hc
      simpa [hk] using hc

end Memory

namespace Processor

variable {τ : Type}

/-- `i` comes next, which saves or loads V0 to Vx, and the index is at `a`. -/
structure AtBlock (s : Processor τ) (i : Instruction) (op : Opcode) (x : Digit) (a : ℕ) : Prop where
  wait : s.wait = none
  next : s.next? = .ok i
  opcode : i.opcode = op
  register : i.x = x
  index : s.registers.index = a

structure Saved (s t : Processor τ) (x : Digit) (a : ℕ) : Prop where
  index : t.registers.index = (a + x + 1 : ℕ)
  v : ∀ k, t.v k = s.v k
  inside : ∀ k ≤ x, t.memory.cell (a + k) = s.v k
  outside : ∀ k ∉ Set.Icc a (a + x), t.memory.cell k = s.memory.cell k

structure Loaded (s t : Processor τ) (x : Digit) (a : ℕ) : Prop where
  index : t.registers.index = (a + x + 1 : ℕ)
  memory : t.memory = s.memory
  inside : ∀ k ≤ x, t.v k = s.memory.cell (a + k)
  outside : ∀ k > x, t.v k = s.v k

variable {s t u w : Processor τ} {i : Instruction} {op : Opcode} {x : Digit} {a : ℕ}

lemma AtBlock.blockFault? (h : s.AtBlock i op x a) (ha : a + x + 1 ≤ 0x1000) :
    s.blockFault? (i.x + 1) = none := by
  rw [Processor.blockFault?, h.index, h.register]
  refine if_pos ⟨by omega, by omega, ?_⟩
  change (a : ℤ) + (x + 1 : ℕ) ≤ (0x1000 : ℕ)
  omega

lemma AtBlock.indexAfter (h : s.AtBlock i op x a) (ho : op ∈ [.ldMemVx, .ldVxMem]) :
    s.sampled.indexAfter i = (a + x + 1 : ℕ) := by
  have hx : s.sampled.indexAfter i = s.registers.index + (i.x + 1 : ℕ) := by
    have hi := h.opcode
    simp only [List.mem_cons, List.not_mem_nil, or_false] at ho
    rw [Processor.indexAfter]
    rcases ho with rfl | rfl <;> rw [hi] <;> rfl
  rw [hx, h.index, h.register]
  push_cast
  ring

lemma AtBlock.exists_saved (h : s.AtBlock i .ldMemVx x a) (ha : a + x + 1 ≤ 0x1000) :
    ∃ t, s.cycle = .done (some i) t ∧ Saved s t x a := by
  have hf : s.fault? i = none := by
    rw [fault?, h.opcode]
    exact h.blockFault? ha
  obtain ⟨u, he, hc⟩ := exists_cycle_execute h.wait h.next hf
  have hi := (execute_effect he).index
  rw [h.indexAfter (by decide)] at hi
  rw [execute, h.opcode] at he
  obtain ⟨memory, hm, rfl⟩ := store_done he
  change s.memory.writeBlock s.registers.index (s.registers.upTo i.x) = .ok memory at hm
  rw [h.index, h.register] at hm
  have hl := length_upTo s.registers x
  refine ⟨_, hc, hi, fun _ => rfl, fun k hk => ?_, fun k hk => ?_⟩
  · obtain ⟨-, rfl⟩ := Memory.writeBlock_eq_ok_iff.mp hm
    have hk' : k.val ≤ x.val := hk
    have hs : a + k < Memory.size := by
      change a + k.val < 0x1000
      omega
    change Memory.cell ⟨Bytes.splice s.memory.cells (a : ℤ).toNat (s.registers.upTo x)⟩ (a + k) = _
    rw [Int.toNat_natCast, Memory.cell_splice _ _ _ hs, if_pos (Nat.le_add_right a k),
      Nat.add_sub_cancel_left, Registers.getElem?_upTo _ hk]
    rfl
  · refine Memory.cell_writeBlock_outside hm ?_
    rw [Set.mem_Icc] at hk
    rw [hl, Set.mem_Ico]
    omega

lemma AtBlock.exists_loaded (h : s.AtBlock i .ldVxMem x a) (ha : a + x + 1 ≤ 0x1000) :
    ∃ t, s.cycle = .done (some i) t ∧ Loaded s t x a := by
  have hf : s.fault? i = none := by
    rw [fault?, h.opcode]
    exact h.blockFault? ha
  obtain ⟨u, he, hc⟩ := exists_cycle_execute h.wait h.next hf
  have hi := (execute_effect he).index
  rw [h.indexAfter (by decide)] at hi
  rw [execute, h.opcode] at he
  change (s.sampled.advance 1).load i.x = .done () u at he
  rw [h.register] at he
  have hv : ∀ k > x, u.v k = (s.sampled.advance 1).v k := fun k hk => v_load he hk
  obtain ⟨bytes, hb, rfl⟩ := load_done he
  change s.memory.readBlock s.registers.index (x + 1 : ℕ) = .ok bytes at hb
  rw [h.index] at hb
  obtain ⟨-, rfl⟩ := Memory.readBlock_eq_ok_iff.mp hb
  rw [Int.toNat_natCast, Int.toNat_natCast] at *
  refine ⟨_, hc, hi, rfl, fun k hk => ?_, hv⟩
  change (s.registers.fill (s.memory.slice a (x + 1))).get k = _
  rw [Registers.get_fill, Memory.getElem?_slice _ _ (Nat.lt_succ_of_le hk)]
  rfl

lemma Loaded.restores (ht : Saved s t x a) (hw : Loaded u w x a)
    (hb : ∀ k ∈ Set.Icc a (a + x), u.memory.cell k = t.memory.cell k) :
    ∀ k ≤ x, w.v k = s.v k := by
  intro k hk
  have hk' : k.val ≤ x.val := hk
  rw [hw.inside k hk, hb _ ⟨by omega, by omega⟩, ht.inside k hk]

lemma Saved.restores (ht : Loaded s t x a) (hw : Saved u w x a) (hv : ∀ k ≤ x, u.v k = t.v k)
    (hb : ∀ k ∈ Set.Icc a (a + x), u.memory.cell k = t.memory.cell k) : w.memory = u.memory := by
  refine Memory.ext_cell fun k _ => ?_
  by_cases hk : k ∈ Set.Icc a (a + x)
  · obtain ⟨d, rfl⟩ := Nat.exists_eq_add_of_le hk.1
    have hd : d ≤ x.val := Nat.add_le_add_iff_left.mp hk.2
    have hx : (⟨d, hd.trans_lt x.isLt⟩ : Digit) ≤ x := hd
    rw [hb _ hk, ht.memory, ← ht.inside _ hx, ← hv _ hx]
    exact hw.inside _ hx
  · exact hw.outside k hk

theorem blocks_undo_each_other (ha : a + x + 1 ≤ 0x1000) :
    (∀ (s : Processor τ) i, s.AtBlock i .ldMemVx x a →
      ∃ t, s.cycle = .done (some i) t ∧ Saved s t x a ∧
        ∀ (u : Processor τ) j, u.AtBlock j .ldVxMem x a →
          (∀ k ∈ Set.Icc a (a + x), u.memory.cell k = t.memory.cell k) →
          ∃ w, u.cycle = .done (some j) w ∧ Loaded u w x a ∧ ∀ k ≤ x, w.v k = s.v k) ∧
    ∀ (s : Processor τ) i, s.AtBlock i .ldVxMem x a →
      ∃ t, s.cycle = .done (some i) t ∧ Loaded s t x a ∧
        ∀ (u : Processor τ) j, u.AtBlock j .ldMemVx x a → (∀ k ≤ x, u.v k = t.v k) →
          (∀ k ∈ Set.Icc a (a + x), u.memory.cell k = t.memory.cell k) →
          ∃ w, u.cycle = .done (some j) w ∧ Saved u w x a ∧ w.memory = u.memory := by
  constructor
  · intro s i hs
    obtain ⟨t, hc, ht⟩ := hs.exists_saved ha
    refine ⟨t, hc, ht, fun u j hu hb => ?_⟩
    obtain ⟨w, hcw, hw⟩ := hu.exists_loaded ha
    exact ⟨w, hcw, hw, hw.restores ht hb⟩
  · intro s i hs
    obtain ⟨t, hc, ht⟩ := hs.exists_loaded ha
    refine ⟨t, hc, ht, fun u j hu hv hb => ?_⟩
    obtain ⟨w, hcw, hw⟩ := hu.exists_saved ha
    exact ⟨w, hcw, hw, hw.restores ht hv hb⟩

def saving : Processor ℚ :=
  booted [0x60, 0x07, 0xF0, 0x55, 0x60, 0x00, 0xA0, 0x00, 0xF0, 0x65]

theorem saving_restored :
    ∃ w, (saving.run [.cycle, .cycle, .cycle, .cycle]).cycle = .done (some ⟨0xF065⟩) w ∧
      w.v 0 = 7 ∧ w.registers.index = 1 := by
  obtain ⟨hw₁, hn₁, hi₁, hv⟩ : (saving.run [.cycle]).wait = none ∧
      (saving.run [.cycle]).next? = .ok ⟨0xF055⟩ ∧
      (saving.run [.cycle]).registers.index = 0 ∧ (saving.run [.cycle]).v 0 = 7 := by
    decide +kernel
  obtain ⟨hw₂, hn₂, hi₂, hm⟩ : (saving.run [.cycle, .cycle, .cycle, .cycle]).wait = none ∧
      (saving.run [.cycle, .cycle, .cycle, .cycle]).next? = .ok ⟨0xF065⟩ ∧
      (saving.run [.cycle, .cycle, .cycle, .cycle]).registers.index = 0 ∧
      (saving.run [.cycle, .cycle, .cycle, .cycle]).memory.cell 0 = 7 := by
    decide +kernel
  obtain ⟨t, -, ht, h⟩ := (blocks_undo_each_other (x := 0) (a := 0) (by decide)).1
    (saving.run [.cycle]) ⟨0xF055⟩ ⟨hw₁, hn₁, rfl, rfl, hi₁⟩
  obtain ⟨w, hc, hw, hr⟩ := h (saving.run [.cycle, .cycle, .cycle, .cycle]) ⟨0xF065⟩
    ⟨hw₂, hn₂, rfl, rfl, hi₂⟩ fun k hk => by
      obtain rfl : k = 0 := Nat.le_zero.mp hk.2
      rw [hm, ← hv]
      exact (ht.inside 0 le_rfl).symm
  exact ⟨w, hc, (hr 0 le_rfl).trans hv, hw.index⟩

end Processor

end ChipEight
