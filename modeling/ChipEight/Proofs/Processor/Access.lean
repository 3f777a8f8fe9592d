import ChipEight.Proofs.Processor.Invariant

/-!
The bytes of memory that a cycle needs. It fails for one that does not exist, and besides only for a
sprite without rows that would begin behind the end of memory.
-/

namespace ChipEight

lemma Memory.not_within_iff {addr : ℤ} (h : 0 ≤ addr) (n : ℕ) :
    ¬ Within addr n ↔
      (∃ a ∈ Set.Ico addr (addr + n), a ∉ Set.Ico (0 : ℤ) Memory.size) ∨
        n = 0 ∧ Memory.size < addr := by
  simp only [Within, Set.mem_Ico]
  constructor
  · intro hn
    by_cases hz : n = 0
    · right
      omega
    · -- the last byte of the block is outside if any is
      refine .inl ⟨addr + n - 1, ?_, ?_⟩ <;> omega
  · rintro (⟨a, ha, hn⟩ | ⟨hz, hs⟩) <;> omega

namespace Processor

variable {τ : Type} {s : Processor τ} {i : Instruction}

/-- The addresses that the next cycle reads or writes: those of the instruction, and if it can be
fetched those that it works on. -/
def touched (s : Processor τ) : Set ℤ :=
  Set.Ico (s.registers.pc.toNat : ℤ) (s.registers.pc.toNat + 2) ∪
    {a | ∃ i, s.next? = .ok i ∧ a ∈ Set.Ico s.registers.index (s.registers.index + i.span)}

lemma cycle_memory_iff (hw : s.wait = none) :
    (∃ addr size t, s.cycle = .failed (.memory addr size) t) ↔
      ¬ Memory.Within s.registers.pc.toNat 2 ∨
        ∃ i, s.next? = .ok i ∧ i.opcode ∈ accesses ∧
          ¬ Memory.Within s.registers.index i.span := by
  constructor
  · rintro ⟨addr, size, t, hc⟩
    obtain ⟨-, ⟨hi, -⟩ | ⟨i, hi, hf, -⟩⟩ := cycle_failed_iff.mp hc
    · exact .inl (next?_eq_error_iff.mp hi).1
    · obtain ⟨ho, hb⟩ := fault?_memory_iff.mp hf
      exact .inr ⟨i, hi, ho, (blockFault?_eq_some_iff.mp hb).1⟩
  · rintro (hm | ⟨i, hi, ho, hm⟩)
    · exact ⟨_, _, _, cycle_of_next?_error hw (next?_eq_error_iff.mpr ⟨hm, rfl⟩)⟩
    · have hb := blockFault?_eq_some_iff.mpr ⟨hm, rfl⟩
      have hf := fault?_memory_iff.mpr ⟨ho, hb⟩
      exact ⟨_, _, _, cycle_failed_iff.mpr ⟨hw, .inr ⟨i, hi, hf, rfl⟩⟩⟩

lemma span_eq_zero_iff (h : i.opcode ∈ accesses) : i.span = 0 ↔ i.opcode = .drw ∧ i.n = 0 := by
  rw [Instruction.span]
  cases ho : i.opcode with
  | drw => exact ⟨fun hn => ⟨rfl, Fin.ext hn⟩, fun hn => congrArg Fin.val hn.2⟩
  | ldBVx | ldMemVx | ldVxMem => simp
  | _ => simp [accesses, ho] at h

lemma accessed_outside_iff (h : 0 ≤ s.registers.index) :
    i.opcode ∈ accesses ∧ ¬ Memory.Within s.registers.index i.span ↔
      (∃ a ∈ Set.Ico s.registers.index (s.registers.index + i.span),
          a ∉ Set.Ico (0 : ℤ) Memory.size) ∨
        i.opcode = .drw ∧ i.n = 0 ∧ Memory.size < s.registers.index := by
  rw [Memory.not_within_iff h]
  constructor
  · rintro ⟨ho, ha | ⟨hz, hs⟩⟩
    · exact .inl ha
    · obtain ⟨hd, hn⟩ := (span_eq_zero_iff ho).mp hz
      exact .inr ⟨hd, hn, hs⟩
  · rintro (⟨a, ha, hn⟩ | ⟨hd, hn, hs⟩)
    · have hz : i.span ≠ 0 := by
        intro hz
        simp [hz] at ha
      exact ⟨accesses_of_span hz, .inl ⟨a, ha, hn⟩⟩
    · have ho : i.opcode ∈ accesses := by simp [hd, accesses]
      exact ⟨ho, .inr ⟨(span_eq_zero_iff ho).mpr ⟨hd, hn⟩, hs⟩⟩

lemma touched_outside_iff :
    (∃ a ∈ s.touched, a ∉ Set.Ico (0 : ℤ) Memory.size) ↔
      ¬ Memory.Within s.registers.pc.toNat 2 ∨
        ∃ i, s.next? = .ok i ∧ ∃ a ∈ Set.Ico s.registers.index (s.registers.index + i.span),
          a ∉ Set.Ico (0 : ℤ) Memory.size := by
  have hp : (0 : ℤ) ≤ s.registers.pc.toNat := Int.natCast_nonneg _
  have hf : ¬ Memory.Within s.registers.pc.toNat 2 ↔ _ := Memory.not_within_iff hp 2
  rw [hf]
  constructor
  · rintro ⟨a, ha | ⟨i, hi, ha⟩, hn⟩
    · exact .inl (.inl ⟨a, ha, hn⟩)
    · exact .inr ⟨i, hi, a, ha, hn⟩
  · rintro ((⟨a, ha, hn⟩ | ⟨hz, -⟩) | ⟨i, hi, a, ha, hn⟩)
    · exact ⟨a, .inl ha, hn⟩
    · cases hz
    · exact ⟨a, .inr ⟨i, hi, ha⟩, hn⟩

lemma draw_no_rows {x y : Digit} (hm : Memory.Within s.registers.index 0) :
    s.draw x y 0 = .done () (s.setFlag false) := by
  have hb : s.memory.readBlock s.registers.index (0 : Digit).val = .ok [] :=
    Memory.readBlock_eq_ok_iff.mpr ⟨hm, rfl⟩
  rw [draw, hb]
  rfl

lemma cycle_of_no_rows (hw : s.wait = none) (hi : s.next? = .ok i) (ho : i.opcode = .drw)
    (hn : i.n = 0) (hm : Memory.Within s.registers.index 0) :
    s.cycle = .done (some i)
      { (s.sampled.advance 1).setFlag false with executed := s.executed + 1 } := by
  have he : (s.sampled.advance 1).execute s.keys i =
      .done () ((s.sampled.advance 1).setFlag false) := by
    rw [execute, ho, hn]
    exact draw_no_rows (s := s.sampled.advance 1) hm
  rw [cycle_of_next? hw hi, he]
  rfl

/-- The only fault for a byte that is not touched is that of a sprite without rows from an index
behind the end of memory. -/
theorem memory_fault_iff [TimeScale τ] (h : Reachable s) (hw : s.wait = none) :
    ((∃ addr size t, s.cycle = .failed (.memory addr size) t) ↔
        (∃ a ∈ s.touched, a ∉ Set.Ico (0 : ℤ) Memory.size) ∨
          ∃ i, s.next? = .ok i ∧ i.opcode = .drw ∧ i.n = 0 ∧ Memory.size < s.registers.index) ∧
      (∀ i, s.next? = .ok i → i.span = 0 → i.opcode ≠ .drw → ∀ addr size t,
        s.cycle ≠ .failed (.memory addr size) t) ∧
      ∀ i, s.next? = .ok i → i.opcode = .drw → i.n = 0 → s.registers.index ≤ Memory.size →
        s.cycle = .done (some i)
          { (s.sampled.advance 1).setFlag false with executed := s.executed + 1 } := by
  have hx : 0 ≤ s.registers.index := h.wellFormed.index
  refine ⟨?_, ?_, ?_⟩
  · simp only [cycle_memory_iff hw, accessed_outside_iff hx, touched_outside_iff, and_or_left,
      exists_or, or_assoc]
  · intro i hi hz hd addr size t hc
    obtain hm | ⟨j, hj, ho, -⟩ := (cycle_memory_iff hw).mp ⟨addr, size, t, hc⟩
    · rw [next?_eq_error_iff.mpr ⟨hm, rfl⟩] at hi
      cases hi
    · obtain rfl : i = j := Except.ok.inj (hi.symm.trans hj)
      exact hd ((span_eq_zero_iff ho).mp hz).1
  · intro i hi hd hn hs
    exact cycle_of_no_rows hw hi hd hn ⟨hx, le_rfl, by omega⟩

def atEnd : Processor ℚ := booted [0xAF, 0xFF, 0xD0, 0x12]

theorem atEnd_fault :
    ∃ s : Processor ℚ, atEnd.run [.cycle] = s ∧ s.wait = none ∧ 0x1000 ∈ s.touched ∧
      ∃ addr size t, s.cycle = .failed (.memory addr size) t := by
  have hi : atEnd.next? = .ok ⟨0xAFFF⟩ := next?_booted 0xAF 0xFF _
  have ho : Instruction.opcode ⟨0xAFFF⟩ = .ldI := rfl
  obtain ⟨u, hc, hu⟩ := exists_cycle_effect rfl hi (by rw [fault?, ho])
  have hs := run_of_done hc
  have hr := (booted_reachable (τ := ℚ) [0xAF, 0xFF, 0xD0, 0x12]).run [.cycle]
  change Reachable (atEnd.run [.cycle]) at hr
  have hx : u.registers.index = 0xFFF := hu.index
  have hn : u.next? = .ok ⟨0xD012⟩ :=
    next?_loaded (k := 2) (hu.memory (by decide)) hu.pc (by decide)
  have ha : (0x1000 : ℤ) ∈ (atEnd.run [.cycle]).touched := by
    rw [hs]
    refine .inr ⟨⟨0xD012⟩, hn, ?_⟩
    change 0x1000 ∈ Set.Ico u.registers.index (u.registers.index + 2)
    rw [hx]
    decide
  have hw : (atEnd.run [.cycle]).wait = none := by
    rw [hs]
    exact hu.wait
  obtain ⟨hf, -⟩ := memory_fault_iff hr hw
  exact ⟨_, rfl, hw, ha, hf.mpr (.inl ⟨_, ha, by decide⟩)⟩

def pastEnd : Processor ℚ := booted [0xAF, 0xFF, 0x60, 0x02, 0xF0, 0x1E, 0xD0, 0x00]

lemma pastEnd_cycles :
    ∃ s : Processor ℚ, pastEnd.run [.cycle, .cycle, .cycle] = s ∧ s.wait = none ∧
      s.next? = .ok ⟨0xD000⟩ ∧ s.registers.index = 0x1001 ∧ s.registers.pc = 0x206 := by
  let s₁ : Processor ℚ := { (pastEnd.sampled.advance 1).setIndex 0xFFF with executed := 1 }
  let s₂ : Processor ℚ := { (s₁.sampled.advance 1).setV 0 0x02 with executed := 2 }
  let s₃ : Processor ℚ := { (s₂.sampled.advance 1).setIndex 0x1001 with executed := 3 }
  have hm₁ : s₁.memory = pastEnd.memory := rfl
  have hm₂ : s₂.memory = pastEnd.memory := rfl
  have hm₃ : s₃.memory = pastEnd.memory := rfl
  have hi : pastEnd.next? = .ok ⟨0xAFFF⟩ := next?_booted 0xAF 0xFF _
  have hi₁ : s₁.next? = .ok ⟨0x6002⟩ := next?_loaded (k := 2) hm₁ rfl (by decide)
  have hi₂ : s₂.next? = .ok ⟨0xF01E⟩ := next?_loaded (k := 4) hm₂ rfl (by decide)
  have hi₃ : s₃.next? = .ok ⟨0xD000⟩ := next?_loaded (k := 6) hm₃ rfl (by decide)
  have hc : pastEnd.cycle = .done (some ⟨0xAFFF⟩) s₁ := cycle_of_next? rfl hi
  have hc₁ : s₁.cycle = .done (some ⟨0x6002⟩) s₂ := cycle_of_next? rfl hi₁
  have hc₂ : s₂.cycle = .done (some ⟨0xF01E⟩) s₃ := cycle_of_next? rfl hi₂
  refine ⟨s₃, ?_, rfl, hi₃, rfl, rfl⟩
  simp only [run, List.foldl_cons, List.foldl_nil, act, hc, hc₁, hc₂, Outcome.state]

theorem rowless_sprite_faults :
    ∃ s : Processor ℚ, pastEnd.run [.cycle, .cycle, .cycle] = s ∧ Reachable s ∧ s.wait = none ∧
      s.next? = .ok ⟨0xD000⟩ ∧ (∀ a ∈ s.touched, a ∈ Set.Ico (0 : ℤ) Memory.size) ∧
      ∃ t, s.cycle = .failed (.memory 0x1001 0) t := by
  obtain ⟨s, hs, hw, hi, hx, hp⟩ := pastEnd_cycles
  have hr : Reachable s := by
    rw [← hs]
    exact (booted_reachable _).run _
  have hf : s.fault? ⟨0xD000⟩ = some (.memory 0x1001 0) := by
    have ho : Instruction.opcode ⟨0xD000⟩ = .drw := rfl
    rw [fault?, ho]
    exact blockFault?_eq_some_iff.mpr ⟨by rw [hx]; decide, by rw [hx]; rfl⟩
  refine ⟨s, hs, hr, hw, hi, ?_, _, cycle_failed_iff.mpr ⟨hw, .inr ⟨_, hi, hf, rfl⟩⟩⟩
  rintro a (ha | ⟨i, hj, ha⟩)
  · rw [hp] at ha
    exact ⟨(show (0 : ℤ) ≤ 0x206 by decide).trans ha.1,
      ha.2.trans (show (0x208 : ℤ) < 0x1000 by decide)⟩
  · obtain rfl : ⟨0xD000⟩ = i := Except.ok.inj (hi.symm.trans hj)
    have hz : Instruction.span ⟨0xD000⟩ = 0 := rfl
    simp [hz] at ha

end Processor

end ChipEight
