import ChipEight.Proofs.Processor.Faults
import ChipEight.Proofs.Processor.Runs

namespace ChipEight

def Fault.origins : Fault → List Opcode
  | memory _ _ => [.drw, .ldBVx, .ldMemVx, .ldVxMem]
  | stackUnderflow => [.ret]
  | stackOverflow _ _ => [.call]
  | unknownOpcode _ _ => [.unknown]

namespace Processor

variable {τ : Type} {s t : Processor τ} {f : Fault} {i : Instruction}

lemma fault?_origins (h : s.fault? i = some f) : i.opcode ∈ f.origins := by
  obtain ⟨n, hb, ho⟩ | ⟨ho, -, rfl⟩ | ⟨c, ho, -, -, rfl⟩ | ⟨ho, -, rfl⟩ := fault?_cases h
  · obtain ⟨-, rfl⟩ := blockFault?_eq_some_iff.mp hb
    exact ho
  all_goals simp [Fault.origins, ho]

lemma run_of_next?_error [TimeScale τ] (hw : s.wait = none) (hi : s.next? = .error f)
    (as : List (Action τ)) : (s.run as).wait = none ∧ (s.run as).next? = .error f := by
  induction as generalizing s with
  | nil => exact ⟨hw, hi⟩
  | cons a as ih =>
    cases a with
    | event e => exact ih (s := s.undergo e) hw hi
    | cycle =>
      have hc : s.act .cycle = s.sampled := by
        rw [act, cycle_of_next?_error hw hi]
        rfl
      change (run (s.act .cycle) as).wait = none ∧ (run (s.act .cycle) as).next? = .error f
      rw [hc]
      exact ih (s := s.sampled) hw hi

theorem cycle_failed_frame [TimeScale τ] (h : s.cycle = .failed f t) :
    s.wait = none ∧
      (s.next? = .error f ∧ f = .memory s.registers.pc.toNat 2 ∧
          t = { s with keypad := { s.keypad with latched := Vector.replicate 16 false } } ∧
          (∀ as : List (Action τ), ∃ u, (t.run as).cycle = .failed f u) ∨
        ∃ i, s.next? = .ok i ∧ s.fault? i = some f ∧ i.opcode ∈ f.origins ∧
          t = { s with
            keypad := { s.keypad with latched := Vector.replicate 16 false }
            registers := { s.registers with pc := t.registers.pc }
            unknowns := s.unknowns + if i.opcode = .unknown then 1 else 0 } ∧
          t.registers.pc.toNat = s.registers.pc.toNat + 2) := by
  obtain ⟨hw, ⟨hi, rfl⟩ | ⟨i, hi, hf, rfl⟩⟩ := cycle_failed_iff.mp h
  · refine ⟨hw, .inl ⟨hi, (next?_eq_error_iff.mp hi).2, rfl, fun as => ?_⟩⟩
    obtain ⟨hw', hi'⟩ := run_of_next?_error (s := s.sampled) hw hi as
    exact ⟨_, cycle_of_next?_error hw' hi'⟩
  · exact ⟨hw, .inr ⟨i, hi, hf, fault?_origins hf, rfl, pc_behind hi⟩⟩

def storePastEnd : Processor ℚ := (booted [0xF3, 0x55]).setIndex 0xFFE

theorem storePastEnd_unchanged :
    ∃ t, storePastEnd.cycle = .failed (.memory 0xFFE 4) t ∧ t.memory = storePastEnd.memory ∧
      t.registers.index = 0xFFE ∧ t.registers.pc.toNat = 0x202 ∧ t.executed = 0 := by
  have hi : storePastEnd.next? = .ok ⟨0xF355⟩ := next?_booted (τ := ℚ) 0xF3 0x55 []
  have hf : storePastEnd.fault? ⟨0xF355⟩ = some (.memory 0xFFE 4) := by decide
  have h := cycle_failed_iff.mpr ⟨rfl, .inr ⟨_, hi, hf, rfl⟩⟩
  refine ⟨_, h, ?_⟩
  obtain ⟨-, ⟨he, -⟩ | ⟨i, -, -, -, ht, hp⟩⟩ := cycle_failed_frame h
  · rw [hi] at he
    cases he
  · refine ⟨?_, ?_, hp, ?_⟩ <;> rw [ht] <;> rfl

end Processor

end ChipEight
