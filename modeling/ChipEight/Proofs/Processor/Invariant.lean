import ChipEight.Proofs.Processor.Atomicity
import ChipEight.Proofs.Processor.Effects

/-!
What holds at any time in the life of a processor, and the faults that it can then meet. The index
never gets below zero, the stack keeps its capacity, and while a key is awaited the program counter
stands at the instruction that asked for it.
-/

namespace ChipEight.Processor

variable {τ : Type} {s t : Processor τ} {f : Fault} {i : Instruction} {keys : KeySample}

structure WellFormed (s : Processor τ) : Prop where
  index : 0 ≤ s.registers.index
  depth : ∀ c, s.stack.capacity = some c → s.stack.depth ≤ c
  wait : ∀ w, s.wait = some w →
    w.instruction.opcode = .ldVxK ∧ w.register = w.instruction.x ∧ s.next? = .ok w.instruction

lemma WellFormed.sampled (h : WellFormed s) : WellFormed s.sampled := ⟨h.index, h.depth, h.wait⟩

lemma indexAfter_nonneg (h : 0 ≤ s.registers.index) : 0 ≤ s.indexAfter i := by
  rw [indexAfter]
  split
  · exact Int.natCast_nonneg _
  · exact Int.natCast_nonneg _
  · exact add_nonneg h (Int.natCast_nonneg _)
  · exact add_nonneg h (Int.natCast_nonneg _)
  · exact add_nonneg h (Int.natCast_nonneg _)
  · exact h

lemma framesAfter_length_le {c : ℕ} (hs : s.stack.capacity = some c) (hd : s.stack.depth ≤ c)
    (hf : s.fault? i = none) : (s.framesAfter i).length ≤ c := by
  change s.stack.frames.length ≤ c at hd
  rw [framesAfter]
  split
  · rename_i ho
    simp only [fault?, ho, hs, Option.bind_some, ite_eq_right_iff, reduceCtorEq] at hf
    change ¬ c ≤ s.stack.frames.length at hf
    rw [List.length_cons]
    omega
  · rw [List.length_tail]
    omega
  · exact hd

lemma WellFormed.execute (h : WellFormed s) (hw : s.wait = none) (hi : s.next? = .ok i)
    (he : (s.advance 1).execute keys i = .done () t) : WellFormed t := by
  have e := execute_effect he
  refine ⟨?_, ?_, ?_⟩
  · rw [e.index]
    exact indexAfter_nonneg h.index
  · intro c hc
    rw [e.stack] at hc ⊢
    exact framesAfter_length_le hc (h.depth c hc) (fault?_of_done he)
  · intro w ht
    rw [e.wait, hw] at ht
    by_cases ho : i.opcode = .ldVxK
    · rw [if_pos ho, Option.some.injEq] at ht
      subst ht
      refine ⟨ho, rfl, ?_⟩
      have hp : t.registers.pc = s.registers.pc := by rw [e.pc, pcAfter, ho]
      have hm : t.memory = s.memory := e.memory (by simp [ho])
      rw [next?_eq_ok_iff, hp, hm, ← next?_eq_ok_iff]
      exact hi
    · rw [if_neg ho] at ht
      cases ht

lemma WellFormed.poll {w : KeyWait} (h : WellFormed s) (hw : s.wait = some w) :
    WellFormed (s.poll w keys).2 := by
  cases hk : w.answer? keys with
  | none =>
    rw [poll_of_none hk]
    refine ⟨h.index, h.depth, ?_⟩
    intro w' hw'
    cases hw'
    exact h.wait w hw
  | some k =>
    rw [poll_of_some hk]
    refine ⟨h.index, h.depth, ?_⟩
    intro w' hw'
    cases hw'

lemma WellFormed.cycle (h : WellFormed s) : WellFormed s.cycle.state := by
  cases hc : s.cycle with
  | failed f t =>
    have hn := wait_of_failed hc
    obtain ⟨-, ⟨-, rfl⟩ | ⟨i, -, -, rfl⟩⟩ := cycle_failed_iff.mp hc
    · exact h.sampled
    · refine ⟨h.index, h.depth, ?_⟩
      intro w hw
      rw [Outcome.state, hn] at hw
      cases hw
  | done r t =>
    change WellFormed t
    obtain ⟨w, hw, -, ht⟩ | ⟨hw, i, u, hi, -, he, ht⟩ := cycle_done_cases hc
    · rw [ht]
      exact h.sampled.poll hw
    · have hu := h.sampled.execute hw hi he
      rw [ht]
      exact ⟨hu.index, hu.depth, hu.wait⟩

lemma WellFormed.done_cases (h : WellFormed s) {r : Option Instruction}
    (hc : s.cycle = .done r t) :
    (∃ w, s.wait = some w ∧ r = none ∧
        t = { s.sampled with wait := some { w with previous := s.keys } }) ∨
      (∃ i, ∃ k : Digit, r = some i ∧ s.wait.isSome = true ∧ s.next? = .ok i ∧
        i.opcode = .ldVxK ∧
        t = { s.sampled with
          registers := (s.registers.set i.x (.ofNat k)).advance 1
          wait := none
          executed := s.executed + 1 }) ∨
      ∃ i u, r = some i ∧ s.wait = none ∧ s.next? = .ok i ∧
        (s.sampled.advance 1).execute s.keys i = .done () u ∧
        t = { u with executed := u.executed + 1 } := by
  obtain ⟨w, hw, hr, ht⟩ | ⟨hw, i, u, hi, hr, he, ht⟩ := cycle_done_cases hc
  · cases hk : w.answer? s.keys with
    | none =>
      rw [poll_of_none hk] at hr ht
      exact .inl ⟨w, hw, hr, ht⟩
    | some k =>
      obtain ⟨ho, hx, hi⟩ := h.wait w hw
      rw [poll_of_some hk] at hr ht
      rw [hx] at ht
      exact .inr (.inl ⟨w.instruction, k, hr, by rw [hw, Option.isSome_some], hi, ho, ht⟩)
  · exact .inr (.inr ⟨i, u, hr, hw, hi, he, ht⟩)

lemma WellFormed.quiet (h : WellFormed s) (hc : s.cycle = .done none t) :
    ∃ w, s.wait = some w ∧ t = { s.sampled with wait := some { w with previous := s.keys } } := by
  obtain ⟨w, hw, -, ht⟩ | ⟨j, k, hr, -⟩ | ⟨j, u, hr, -⟩ := h.done_cases hc
  · exact ⟨w, hw, ht⟩
  · cases hr
  · cases hr

lemma WellFormed.answered_cases (h : WellFormed s) (hc : s.cycle = .done (some i) t) :
    (∃ k : Digit, s.wait.isSome = true ∧ s.next? = .ok i ∧ i.opcode = .ldVxK ∧
        t = { s.sampled with
          registers := (s.registers.set i.x (.ofNat k)).advance 1
          wait := none
          executed := s.executed + 1 }) ∨
      ∃ u, s.wait = none ∧ s.next? = .ok i ∧
        (s.sampled.advance 1).execute s.keys i = .done () u ∧
        t = { u with executed := u.executed + 1 } := by
  obtain ⟨-, -, hr, -⟩ | ⟨j, k, hr, hw, hi, ho, ht⟩ | ⟨j, u, hr, hw, hi, he, ht⟩ := h.done_cases hc
  · cases hr
  · cases hr
    exact .inl ⟨k, hw, hi, ho, ht⟩
  · cases hr
    exact .inr ⟨u, hw, hi, he, ht⟩

lemma WellFormed.executed (h : WellFormed s) (hc : s.cycle = .done (some i) t)
    (ho : i.opcode ≠ .ldVxK) :
    s.next? = .ok i ∧ ∃ u, (s.sampled.advance 1).execute s.keys i = .done () u ∧
      t = { u with executed := u.executed + 1 } := by
  obtain ⟨k, -, -, hk, -⟩ | ⟨u, -, hi, he, ht⟩ := h.answered_cases hc
  · exact absurd hk ho
  · exact ⟨hi, u, he, ht⟩

lemma WellFormed.start [TimeScale τ] {setup : Setup} (memory : Memory)
    (h : start? setup = .ok s) : WellFormed { s with memory } := by
  obtain ⟨stack, source, hs, rfl⟩ := start?_eq_ok h
  refine ⟨le_rfl, ?_, ?_⟩
  · intro c hc
    change stack.frames.length ≤ c
    rw [CallStack.empty?_frames hs]
    exact Nat.zero_le c
  · intro w hw
    cases hw

lemma wellFormed_act [TimeScale τ] (h : WellFormed s) (a : Action τ) : WellFormed (s.act a) := by
  cases a with
  | cycle => exact h.cycle
  | event e => exact ⟨h.index, h.depth, h.wait⟩

lemma wellFormed_run [TimeScale τ] (h : WellFormed s) (as : List (Action τ)) :
    WellFormed (s.run as) := by
  induction as generalizing s with
  | nil => exact h
  | cons a as ih => exact ih (wellFormed_act h a)

lemma Reachable.wellFormed [TimeScale τ] (h : Reachable s) : WellFormed s := by
  induction h with
  | start memory hs => exact .start memory hs
  | act a _ ih => exact wellFormed_act ih a

lemma WellFormed.faults (h : WellFormed s) (hc : s.cycle = .failed f t) :
    (∃ addr size, f = .memory addr size ∧ ¬ Memory.Within addr size) ∨
      (f = .stackUnderflow ∧ s.stack.frames = [] ∧
        ∃ i, s.next? = .ok i ∧ i.opcode = .ret) ∨
      (∃ c addr, f = .stackOverflow c addr ∧ s.stack.capacity = some c ∧ s.stack.depth = c ∧
        ∃ i, s.next? = .ok i ∧ i.opcode = .call) ∨
      ∃ word addr, f = .unknownOpcode word addr ∧ s.options.strict = true ∧
        ∃ i, s.next? = .ok i ∧ i.opcode = .unknown := by
  obtain ⟨-, ⟨hi, -⟩ | ⟨i, hi, hf, -⟩⟩ := cycle_failed_iff.mp hc
  · obtain ⟨hm, rfl⟩ := next?_eq_error_iff.mp hi
    exact .inl ⟨_, _, rfl, hm⟩
  · obtain ⟨n, hb, -⟩ | ⟨ho, hs, rfl⟩ | ⟨c, ho, hs, hd, rfl⟩ | ⟨ho, hs, rfl⟩ := fault?_cases hf
    · obtain ⟨hm, rfl⟩ := blockFault?_eq_some_iff.mp hb
      exact .inl ⟨_, _, rfl, hm⟩
    · exact .inr (.inl ⟨rfl, hs, i, hi, ho⟩)
    · exact .inr (.inr (.inl ⟨c, _, rfl, hs, (h.depth c hs).antisymm hd, i, hi, ho⟩))
    · exact .inr (.inr (.inr ⟨_, _, rfl, hs, i, hi, ho⟩))

theorem reachable_sound [TimeScale τ] (h : Reachable s) :
    (s.registers.v.toList.length = 16 ∧ ∀ b ∈ s.registers.v.toList, b.toNat ≤ 255) ∧
      0 ≤ s.registers.index ∧
      (s.memory.cells.toList.length = 4096 ∧ ∀ b ∈ s.memory.cells.toList, b.toNat ≤ 255) ∧
      (s.screen.rows.toList.length = 32 ∧ ∀ row ∈ s.screen.rows.toList, row.toNat < 2 ^ 64) ∧
      (s.timer.delay.toNat ≤ 255 ∧ s.timer.sound.toNat ≤ 255) ∧
      (∀ c, s.stack.capacity = some c → s.stack.depth ≤ c) ∧
      (∀ w, s.wait = some w →
        w.instruction.opcode = .ldVxK ∧ w.register = w.instruction.x ∧
          s.memory.readWord s.registers.pc.toNat = .ok w.instruction.word) ∧
      ((∃ r t, s.cycle = .done r t) ∨
        ∃ f t, s.cycle = .failed f t ∧
          ((∃ addr size, f = .memory addr size ∧ ¬ Memory.Within addr size) ∨
            (f = .stackUnderflow ∧ s.stack.frames = [] ∧
              ∃ i, s.next? = .ok i ∧ i.opcode = .ret) ∨
            (∃ c addr, f = .stackOverflow c addr ∧ s.stack.capacity = some c ∧
              s.stack.depth = c ∧ ∃ i, s.next? = .ok i ∧ i.opcode = .call) ∨
            ∃ word addr, f = .unknownOpcode word addr ∧ s.options.strict = true ∧
              ∃ i, s.next? = .ok i ∧ i.opcode = .unknown)) := by
  have hs := h.wellFormed
  have byte (b : UInt8) : b.toNat ≤ 255 := Nat.le_of_lt_succ b.toNat_lt
  refine ⟨⟨Vector.length_toList, fun b _ => byte b⟩, hs.index,
    ⟨Vector.length_toList, fun b _ => byte b⟩, ⟨Vector.length_toList, fun row _ => row.isLt⟩,
    ⟨byte _, byte _⟩, hs.depth, ?_, ?_⟩
  · intro w hw
    obtain ⟨ho, hr, hi⟩ := hs.wait w hw
    exact ⟨ho, hr, next?_eq_ok_iff.mp hi⟩
  · cases hc : s.cycle with
    | done r t => exact .inl ⟨r, t, rfl⟩
    | failed f t => exact .inr ⟨f, t, rfl, hs.faults hc⟩

def asking : Processor ℚ := booted [0xF2, 0x0A]

lemma asking_cycle : asking.cycle = .done (some ⟨0xF20A⟩)
    { asking.sampled with wait := some ⟨2, ⟨0xF20A⟩, asking.keys⟩, executed := 1 } :=
  cycle_of_ldVxK rfl (next?_booted 0xF2 0x0A []) rfl

theorem asking_sound :
    asking.cycle.state.wait.isSome = true ∧
      asking.cycle.state.memory.readWord asking.cycle.state.registers.pc.toNat = .ok 0xF20A ∧
      asking.cycle.state.stack.depth ≤ 16 := by
  have hr : Reachable asking.cycle.state := (booted_reachable [0xF2, 0x0A]).act .cycle
  obtain ⟨-, -, -, -, -, hd, hw, -⟩ := reachable_sound hr
  rw [asking_cycle] at hd hw ⊢
  exact ⟨rfl, (hw _ rfl).2.2, hd 16 rfl⟩

end ChipEight.Processor
