import ChipEight.Proofs.CallStack
import ChipEight.Proofs.Processor.Cycle

namespace ChipEight

def Instruction.span (i : Instruction) : ℕ :=
  match i.opcode with
  | .drw => i.n
  | .ldBVx => 3
  | .ldMemVx | .ldVxMem => i.x + 1
  | _ => 0

namespace Processor

variable {τ : Type}

/-- The instructions that ask for bytes from the index on, be it for none. -/
def accesses : List Opcode := [.drw, .ldBVx, .ldMemVx, .ldVxMem]

def blockFault? (s : Processor τ) (size : ℕ) : Option Fault :=
  if Memory.Within s.registers.index size then none
  else some (.memory s.registers.index size)

def fault? (s : Processor τ) (i : Instruction) : Option Fault :=
  match i.opcode with
  | .ret => if s.stack.frames = [] then some .stackUnderflow else none
  | .call =>
    s.stack.capacity.bind fun c =>
      if c ≤ s.stack.depth then some (.stackOverflow c (s.registers.advance 1).pc.toNat) else none
  | .drw => s.blockFault? i.n
  | .ldBVx => s.blockFault? 3
  | .ldMemVx | .ldVxMem => s.blockFault? (i.x + 1)
  | .unknown =>
    if s.options.strict then some (.unknownOpcode i.word.toNat s.registers.pc.toNat) else none
  | _ => none

def failed (s : Processor τ) (i : Instruction) : Processor τ :=
  { s.advance 1 with unknowns := s.unknowns + if i.opcode = .unknown then 1 else 0 }

variable {s t : Processor τ} {f : Fault} {i : Instruction} {keys : KeySample} {x y : Digit}

lemma blockFault?_eq_some_iff {n : ℕ} :
    s.blockFault? n = some f ↔
      ¬ Memory.Within s.registers.index n ∧ f = .memory s.registers.index n := by
  rw [blockFault?]
  split <;> simp_all [eq_comm]

lemma readBlock_failed_iff {n : ℕ} :
    s.memory.readBlock s.registers.index n = .error f ↔ s.blockFault? n = some f := by
  rw [Memory.readBlock_eq_error_iff, blockFault?_eq_some_iff]

lemma writeBlock_failed_iff {bytes : List UInt8} {n : ℕ} (h : bytes.length = n) :
    s.memory.writeBlock s.registers.index bytes = .error f ↔ s.blockFault? n = some f := by
  rw [Memory.writeBlock_eq_error_iff, blockFault?_eq_some_iff, h]

lemma ret_failed_iff : s.ret = .failed f t ↔ s.stack.frames = [] ∧ f = .stackUnderflow ∧ t = s := by
  rw [ret]
  cases h : s.stack.pop with
  | error g =>
    obtain ⟨hs, rfl⟩ := CallStack.pop_eq_error_iff.mp h
    simp [hs, eq_comm]
  | ok p =>
    obtain ⟨rest, hs, -⟩ := CallStack.pop_eq_ok_iff.mp h
    simp [hs]

lemma call_failed_iff {addr : ℕ} :
    s.call addr = .failed f t ↔
      ∃ c, s.stack.capacity = some c ∧ c ≤ s.stack.depth ∧
        f = .stackOverflow c s.registers.pc.toNat ∧ t = s := by
  rw [call]
  cases h : s.stack.push s.registers.pc.toNat with
  | error g =>
    obtain ⟨c, hc, hd, rfl⟩ := CallStack.push_eq_error_iff.mp h
    simp [hc, hd, eq_comm]
  | ok stack =>
    have hf := (CallStack.push_eq_ok_iff.mp h).1
    simp only [reduceCtorEq, false_iff]
    rintro ⟨c, hc, hd, -⟩
    exact hf ⟨c, hc, hd⟩

lemma draw_failed_iff {n : Digit} :
    s.draw x y n = .failed f t ↔ s.blockFault? n = some f ∧ t = s := by
  rw [draw]
  rw [← readBlock_failed_iff]
  cases s.memory.readBlock s.registers.index n.val <;> simp [eq_comm]

lemma storeDecimal_failed_iff :
    s.storeDecimal x = .failed f t ↔ s.blockFault? 3 = some f ∧ t = s := by
  rw [storeDecimal]
  have h : (decimals (s.v x)).length = 3 := rfl
  rw [← writeBlock_failed_iff h]
  cases s.memory.writeBlock s.registers.index (decimals (s.v x)) <;> simp [eq_comm]

lemma length_upTo (r : Registers) (x : Digit) : (r.upTo x).length = x + 1 := by
  simp [Registers.upTo]

lemma store_failed_iff :
    s.store x = .failed f t ↔ s.blockFault? (x + 1) = some f ∧ t = s := by
  rw [store]
  rw [← writeBlock_failed_iff (length_upTo s.registers x)]
  cases s.memory.writeBlock s.registers.index (s.registers.upTo x) <;> simp [eq_comm]

lemma load_failed_iff :
    s.load x = .failed f t ↔ s.blockFault? (x + 1) = some f ∧ t = s := by
  rw [load]
  rw [← readBlock_failed_iff]
  cases s.memory.readBlock s.registers.index (x.val + 1 : ℕ) <;> simp [eq_comm]

lemma unknown_failed_iff :
    s.unknown i = .failed f t ↔
      s.options.strict = true ∧ f = .unknownOpcode i.word.toNat s.current.toNat ∧
        t = { s with unknowns := s.unknowns + 1 } := by
  rw [unknown]
  by_cases hs : s.options.strict = true
  · simp only [hs, if_true, Outcome.failed.injEq, true_and]
    exact and_congr eq_comm eq_comm
  · simp [hs]

lemma failed_of_known (h : i.opcode ≠ .unknown) : s.failed i = s.advance 1 := by
  simp only [failed, h, if_false]
  rfl

lemma current_advance_one : (s.advance 1).current = s.registers.pc := by
  change ((s.registers.advance 1).advance (-1)).pc = s.registers.pc
  rw [Registers.advance_back]

theorem execute_failed_iff :
    (s.advance 1).execute keys i = .failed f t ↔ s.fault? i = some f ∧ t = s.failed i := by
  rw [execute, fault?]
  cases h : i.opcode with
  | ret =>
    rw [ret_failed_iff, failed_of_known (by simp [h])]
    change s.stack.frames = [] ∧ _ ↔ _
    by_cases hs : s.stack.frames = []
    · simp [hs, eq_comm (a := f)]
    · simp [hs]
  | call =>
    rw [call_failed_iff, failed_of_known (by simp [h])]
    change (∃ c, s.stack.capacity = some c ∧ c ≤ s.stack.depth ∧
      f = .stackOverflow c (s.registers.advance 1).pc.toNat ∧ _) ↔ _
    cases s.stack.capacity with
    | none => simp
    | some c => simp [eq_comm, and_assoc]
  | drw =>
    rw [draw_failed_iff, failed_of_known (by simp [h])]
    rfl
  | ldBVx =>
    rw [storeDecimal_failed_iff, failed_of_known (by simp [h])]
    rfl
  | ldMemVx =>
    rw [store_failed_iff, failed_of_known (by simp [h])]
    rfl
  | ldVxMem =>
    rw [load_failed_iff, failed_of_known (by simp [h])]
    rfl
  | unknown =>
    rw [unknown_failed_iff, current_advance_one]
    simp only [failed, h, if_true]
    change s.options.strict = true ∧ f = _ ∧ t = { s.advance 1 with unknowns := s.unknowns + 1 } ↔ _
    by_cases hs : s.options.strict = true
    · simp [hs, eq_comm (a := f)]
    · simp [hs]
  | _ => simp

lemma fault?_cases (h : s.fault? i = some f) :
    (∃ n, s.blockFault? n = some f ∧ i.opcode ∈ accesses) ∨
      (i.opcode = .ret ∧ s.stack.frames = [] ∧ f = .stackUnderflow) ∨
      (∃ c, i.opcode = .call ∧ s.stack.capacity = some c ∧ c ≤ s.stack.depth ∧
        f = .stackOverflow c (s.registers.advance 1).pc.toNat) ∨
      i.opcode = .unknown ∧ s.options.strict = true ∧
        f = .unknownOpcode i.word.toNat s.registers.pc.toNat := by
  rw [fault?] at h
  cases ho : i.opcode with
  | drw | ldBVx | ldMemVx | ldVxMem =>
    rw [ho] at h
    exact .inl ⟨_, h, by simp [accesses]⟩
  | ret =>
    simp only [ho, Option.ite_none_right_eq_some, Option.some.injEq] at h
    exact .inr (.inl ⟨rfl, h.1, h.2.symm⟩)
  | call =>
    simp only [ho, Option.bind_eq_some_iff, Option.ite_none_right_eq_some, Option.some.injEq] at h
    obtain ⟨c, hc, hd, hf⟩ := h
    exact .inr (.inr (.inl ⟨c, rfl, hc, hd, hf.symm⟩))
  | unknown =>
    simp only [ho, Option.ite_none_right_eq_some, Option.some.injEq] at h
    exact .inr (.inr (.inr ⟨rfl, h.1, h.2.symm⟩))
  | _ => simp [ho] at h

lemma fault?_memory_iff {addr size : ℤ} :
    s.fault? i = some (.memory addr size) ↔
      i.opcode ∈ accesses ∧ s.blockFault? i.span = some (.memory addr size) := by
  rw [fault?, Instruction.span]
  cases ho : i.opcode with
  | drw | ldBVx | ldMemVx | ldVxMem => simp [accesses]
  | call =>
    cases s.stack.capacity with
    | none => simp [accesses]
    | some c => simp [accesses]
  | _ => simp [accesses]

lemma accesses_of_span (h : i.span ≠ 0) : i.opcode ∈ accesses := by
  rw [Instruction.span] at h
  cases ho : i.opcode with
  | drw | ldBVx | ldMemVx | ldVxMem => simp [accesses]
  | _ => simp [ho] at h

lemma fault?_of_done (h : (s.advance 1).execute keys i = .done () t) : s.fault? i = none := by
  cases hf : s.fault? i with
  | none => rfl
  | some f =>
    rw [execute_failed_iff.mpr ⟨hf, rfl⟩] at h
    cases h

lemma cycle_failed_iff :
    s.cycle = .failed f t ↔
      s.wait = none ∧
        (s.next? = .error f ∧ t = s.sampled ∨
          ∃ i, s.next? = .ok i ∧ s.fault? i = some f ∧ t = s.sampled.failed i) := by
  constructor
  · intro h
    obtain ⟨hw, ⟨hi, rfl⟩ | ⟨i, hi, he⟩⟩ := cycle_failed_cases h
    · exact ⟨hw, .inl ⟨hi, rfl⟩⟩
    · exact ⟨hw, .inr ⟨i, hi, execute_failed_iff.mp he⟩⟩
  · rintro ⟨hw, ⟨hi, rfl⟩ | ⟨i, hi, hf⟩⟩
    · exact cycle_of_next?_error hw hi
    · rw [cycle_of_next? hw hi, execute_failed_iff.mpr hf]

lemma exists_cycle_done (hw : s.wait = none) (hi : s.next? = .ok i) (hf : s.fault? i = none) :
    ∃ t, s.cycle = .done (some i) t := by
  rw [cycle_of_next? hw hi]
  cases he : (s.sampled.advance 1).execute s.keys i with
  | done _ t => exact ⟨_, rfl⟩
  | failed f t =>
    have hn : s.fault? i = some f := (execute_failed_iff.mp he).1
    rw [hf] at hn
    cases hn

lemma exists_cycle_execute (hw : s.wait = none) (hi : s.next? = .ok i) (hf : s.fault? i = none) :
    ∃ u, (s.sampled.advance 1).execute s.keys i = .done () u ∧
      s.cycle = .done (some i) { u with executed := u.executed + 1 } := by
  obtain ⟨t, hc⟩ := exists_cycle_done hw hi hf
  obtain ⟨w, hw', -⟩ | ⟨-, j, u, -, hj, he, rfl⟩ := cycle_done_cases hc
  · rw [hw] at hw'
    cases hw'
  · cases hj
    exact ⟨u, he, hc⟩

lemma wait_of_failed (h : s.cycle = .failed f t) : t.wait = none := by
  obtain ⟨hw, ⟨-, ht⟩ | ⟨i, -, -, ht⟩⟩ := cycle_failed_iff.mp h
  · rw [ht]
    exact hw
  · rw [ht]
    exact hw

end Processor

end ChipEight
