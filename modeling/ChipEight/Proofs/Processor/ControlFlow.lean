import ChipEight.Proofs.Processor.Calls

/-!
Where the program counter goes. It is never cut to sixteen bits on the way: what instructions, calls
and returns make of it stays below the first address that would be changed by that, and outside of
memory it stays where it is.
-/

namespace ChipEight.Processor

variable {τ : Type} {s t : Processor τ} {f : Fault} {i : Instruction} {keys : KeySample}

def destination (s : Processor τ) (keys : KeySample) (i : Instruction) : ℕ :=
  match i.opcode with
  | .jp | .call => i.nnn
  | .jpV0 => i.nnn + (s.v (.last 0)).toNat
  | .ret => (s.stack.frames.headD 0).toNat
  | .ldVxK => s.registers.pc.toNat
  | _ => s.registers.pc.toNat + if s.skips keys i then 4 else 2

lemma nnn_lt (i : Instruction) : i.nnn < Memory.size := Nat.mod_lt _ (by decide)

lemma v_le (s : Processor τ) (x : Digit) : (s.v x).toNat ≤ 0xFF :=
  Nat.le_of_lt_succ (s.v x).toNat_lt

lemma toNat_ofNat_of_le {n : ℕ} (h : n ≤ 0x10FE) : (UInt16.ofNat n).toNat = n :=
  UInt16.toNat_ofNat_of_lt' (lt_of_le_of_lt h (by decide))

lemma advance_toNat (r : Registers) {n : ℕ} (h : r.pc.toNat + 2 * n ≤ 0x10FE) :
    (r.advance n).pc.toNat = r.pc.toNat + 2 * n := by
  have hp : (r.advance n).pc = .ofNat (r.pc.toNat + 2 * n) := by
    rw [← Registers.pc_jump r, Registers.advance]
    push_cast
    rfl
  rw [hp, toNat_ofNat_of_le h]

lemma pcAfter_toNat (h : s.next? = .ok i) :
    (s.pcAfter keys i).toNat = s.destination keys i := by
  have hp : s.registers.pc.toNat + 2 ≤ 0x1000 := pc_of_next? h
  have hn : i.nnn < 0x1000 := nnn_lt i
  have hv := v_le s (.last 0)
  rw [pcAfter, destination]
  cases i.opcode with
  | jp | call | jpV0 => exact toNat_ofNat_of_le (by omega)
  | ret | ldVxK => rfl
  | _ =>
    cases s.skips keys i with
    | false => exact advance_toNat s.registers (n := 1) (by omega)
    | true => exact advance_toNat s.registers (n := 2) (by omega)

structure Bounded (s : Processor τ) : Prop where
  pc : s.registers.pc.toNat ≤ 0x10FE
  frames : ∀ a ∈ s.stack.frames, a.toNat ≤ 0x1000

lemma Bounded.destination_le (h : Bounded s) (hi : s.next? = .ok i) :
    s.destination keys i ≤ 0x10FE := by
  have hp : s.registers.pc.toNat + 2 ≤ 0x1000 := pc_of_next? hi
  have hn : i.nnn < 0x1000 := nnn_lt i
  have hv := v_le s (.last 0)
  rw [destination]
  split
  · omega
  · omega
  · omega
  · cases hs : s.stack.frames with
    | nil => decide
    | cons a rest =>
      have ha : a.toNat ≤ 0x1000 := h.frames a (by simp [hs])
      change a.toNat ≤ 0x10FE
      omega
  · omega
  · split <;> omega

lemma Bounded.framesAfter_le (h : Bounded s) (hi : s.next? = .ok i) :
    ∀ a ∈ s.framesAfter i, a.toNat ≤ 0x1000 := by
  rw [framesAfter]
  split
  · -- the call was fetched from memory, so the address behind it is at most the size of memory
    have hp : (s.registers.advance 1).pc.toNat ≤ 0x1000 := by
      rw [pc_behind hi]
      exact pc_of_next? hi
    rw [List.forall_mem_cons]
    exact ⟨hp, h.frames⟩
  · intro a ha
    exact h.frames a (List.mem_of_mem_tail ha)
  · exact h.frames

lemma pc_behind_le (hi : s.next? = .ok i) : (s.registers.advance 1).pc.toNat ≤ 0x10FE := by
  have hp : s.registers.pc.toNat + 2 ≤ 0x1000 := pc_of_next? hi
  rw [pc_behind hi]
  omega

lemma Bounded.cycle (h : Bounded s) (hs : WellFormed s) : Bounded s.cycle.state := by
  cases hc : s.cycle with
  | failed f t =>
    rw [Outcome.state]
    obtain ⟨-, ⟨-, rfl⟩ | ⟨i, hi, -, rfl⟩⟩ := cycle_failed_iff.mp hc
    · exact ⟨h.pc, h.frames⟩
    · exact ⟨pc_behind_le hi, h.frames⟩
  | done r t =>
    rw [Outcome.state]
    obtain ⟨w, -, -, rfl⟩ | ⟨i, k, -, -, hi, -, rfl⟩ | ⟨i, u, -, -, hi, he, rfl⟩ :=
      hs.done_cases hc
    · exact ⟨h.pc, h.frames⟩
    · exact ⟨pc_behind_le hi, h.frames⟩
    · have e := execute_effect he
      have hb : Bounded s.sampled := ⟨h.pc, h.frames⟩
      refine ⟨?_, ?_⟩
      · change u.registers.pc.toNat ≤ 0x10FE
        rw [e.pc, pcAfter_toNat (s := s.sampled) hi]
        exact hb.destination_le hi
      · change ∀ a ∈ u.stack.frames, a.toNat ≤ 0x1000
        rw [e.stack]
        exact hb.framesAfter_le hi

lemma Reachable.bounded [TimeScale τ] (h : Reachable s) : Bounded s := by
  induction h with
  | start memory hs =>
    obtain ⟨stack, source, hc, rfl⟩ := start?_eq_ok hs
    have hp : Registers.initial.pc.toNat ≤ 0x10FE := by decide
    refine ⟨hp, ?_⟩
    change ∀ a ∈ stack.frames, a.toNat ≤ 0x1000
    rw [CallStack.empty?_frames hc]
    exact List.forall_mem_nil _
  | act a hr ih =>
    cases a with
    | cycle => exact ih.cycle hr.wellFormed
    | event e => exact ⟨ih.pc, ih.frames⟩

lemma next?_of_outside (h : Memory.size < s.registers.pc.toNat + 2) :
    s.next? = .error (.memory s.registers.pc.toNat 2) := by
  refine next?_eq_error_iff.mpr ⟨fun hw => ?_, rfl⟩
  have hs := hw.2.2
  omega

lemma run_of_outside [TimeScale τ] (hw : s.wait = none)
    (hp : Memory.size < s.registers.pc.toNat + 2) (as : List (Action τ)) :
    (s.run as).registers.pc = s.registers.pc ∧
      ∃ u, (s.run as).cycle = .failed (.memory s.registers.pc.toNat 2) u := by
  obtain ⟨hw', hi'⟩ := run_of_next?_error hw (next?_of_outside hp) as
  have hf := (next?_eq_error_iff.mp hi').2
  simp only [Fault.memory.injEq, and_true, Int.natCast_inj] at hf
  exact ⟨UInt16.toNat_inj.mp hf.symm, _, cycle_of_next?_error hw' hi'⟩

lemma WellFormed.next?_of_wait (h : WellFormed s) (hw : s.wait.isSome = true) :
    s.registers.pc.toNat + 2 ≤ Memory.size := by
  obtain ⟨w, hw⟩ := Option.isSome_iff_exists.mp hw
  exact pc_of_next? (h.wait w hw).2.2

lemma pc_of_done {r : Option Instruction} (hw : s.wait = none) (hc : s.cycle = .done r t) :
    ∃ i, r = some i ∧ s.next? = .ok i ∧ t.registers.pc.toNat = s.destination s.keys i ∧
      (i.opcode = .ret → s.stack.frames = t.registers.pc :: t.stack.frames) ∧
      (i.opcode = .call → ∃ ret, t.stack.frames = ret :: s.stack.frames ∧
        ret.toNat = s.registers.pc.toNat + 2) := by
  obtain ⟨w, hw', -⟩ | ⟨-, i, u, hi, hr, he, rfl⟩ := cycle_done_cases hc
  · rw [hw] at hw'
    cases hw'
  · have e := execute_effect he
    have hret := stack_of_ret he
    have hcall := stack_of_call he
    have hp : u.registers.pc.toNat = s.destination s.keys i := by
      rw [e.pc]
      exact pcAfter_toNat (s := s.sampled) hi
    refine ⟨i, hr, hi, hp, fun ho => ?_, fun ho => ?_⟩
    · exact congrArg CallStack.frames (hret ho)
    · exact ⟨_, congrArg CallStack.frames (hcall ho), pc_behind hi⟩

lemma WellFormed.pc_of_wait (h : WellFormed s) (hw : s.wait.isSome = true)
    {r : Option Instruction} (hc : s.cycle = .done r t) :
    t.registers.pc.toNat = s.registers.pc.toNat + if r.isSome then 2 else 0 := by
  obtain ⟨w, -, rfl, rfl⟩ | ⟨i, k, rfl, -, hi, -, rfl⟩ | ⟨i, u, -, hw', -⟩ := h.done_cases hc
  · rfl
  · exact pc_behind (s := s) hi
  · rw [hw'] at hw
    cases hw

lemma pc_of_failed (hc : s.cycle = .failed f t) :
    t.registers.pc.toNat = s.registers.pc.toNat + if s.next?.isOk then 2 else 0 := by
  obtain ⟨-, ⟨hi, rfl⟩ | ⟨i, hi, -, rfl⟩⟩ := cycle_failed_iff.mp hc
  · rw [hi]
    rfl
  · rw [hi]
    exact pc_behind (s := s) hi

theorem reachable_pc_exact [TimeScale τ] (h : Reachable s) :
    (s.wait = none → ∀ r t, s.cycle = .done r t →
        ∃ i, r = some i ∧ s.next? = .ok i ∧
          t.registers.pc.toNat = s.destination s.keys i ∧
          (i.opcode = .ret → s.stack.frames = t.registers.pc :: t.stack.frames) ∧
          (i.opcode = .call → ∃ ret, t.stack.frames = ret :: s.stack.frames ∧
            ret.toNat = s.registers.pc.toNat + 2)) ∧
      (s.wait.isSome = true → ∀ r t, s.cycle = .done r t →
        t.registers.pc.toNat = s.registers.pc.toNat + if r.isSome then 2 else 0) ∧
      (∀ f t, s.cycle = .failed f t →
        t.registers.pc.toNat = s.registers.pc.toNat + if s.next?.isOk then 2 else 0) ∧
      (s.registers.pc.toNat ≤ 0x10FE ∧ ∀ a ∈ s.stack.frames, a.toNat ≤ 0x1000) ∧
      (Memory.size < s.registers.pc.toNat + 2 → ∀ as : List (Action τ),
        (s.run as).registers.pc = s.registers.pc ∧
          ∃ u, (s.run as).cycle = .failed (.memory s.registers.pc.toNat 2) u) := by
  have hb := h.bounded
  refine ⟨fun hw r t hc => pc_of_done hw hc, fun hw r t hc => h.wellFormed.pc_of_wait hw hc,
    fun f t hc => pc_of_failed hc, ⟨hb.pc, hb.frames⟩, fun hp as => run_of_outside ?_ hp as⟩
  -- a key is waited for by an instruction that was fetched, so from inside memory
  by_contra hw
  have hm := h.wellFormed.next?_of_wait (Option.isSome_iff_ne_none.mpr hw)
  omega

def leaping : Processor ℚ := booted [0x60, 0xFF, 0xBF, 0xFF]

lemma leaping_cycle : leaping.cycle =
    .done (some ⟨0x60FF⟩) { (leaping.sampled.advance 1).setV 0 0xFF with executed := 1 } := by
  have hi : leaping.next? = .ok ⟨0x60FF⟩ := next?_booted 0x60 0xFF _
  have ho : Instruction.opcode ⟨0x60FF⟩ = .ldVxKk := rfl
  have he : (leaping.sampled.advance 1).execute leaping.keys ⟨0x60FF⟩ =
      .done () ((leaping.sampled.advance 1).setV 0 0xFF) := by
    rw [execute, ho]
    rfl
  rw [cycle_of_next? rfl hi, he]
  rfl

theorem leaping_outside :
    ∃ t u, leaping.cycle.state.cycle = .done (some ⟨0xBFFF⟩) t ∧
      t.registers.pc.toNat = 0x10FE ∧ t.cycle = .failed (.memory 0x10FE 2) u := by
  have h0 : Reachable leaping := booted_reachable _
  have h : Reachable leaping.cycle.state := h0.act .cycle
  have hm : leaping.cycle.state.memory =
      (Memory.zeros.loadProgram [0x60, 0xFF, 0xBF, 0xFF]).2 := by
    rw [leaping_cycle]
    rfl
  have hp : leaping.cycle.state.registers.pc = .ofNat (Memory.programStart + 2) := by
    rw [leaping_cycle]
    rfl
  have hw : leaping.cycle.state.wait = none := by
    rw [leaping_cycle]
    rfl
  have hi : leaping.cycle.state.next? = .ok ⟨0xBFFF⟩ := next?_loaded hm hp (by decide)
  have ho : Instruction.opcode ⟨0xBFFF⟩ = .jpV0 := rfl
  obtain ⟨t, hc⟩ := exists_cycle_done hw hi (by rw [fault?, ho])
  obtain ⟨hpc, -⟩ := reachable_pc_exact h
  obtain ⟨i, hr, -, ht, -⟩ := hpc hw _ t hc
  cases hr
  have ht : t.registers.pc.toNat = 0x10FE := by
    rw [ht, destination, ho, leaping_cycle]
    rfl
  have hs : Reachable t := by
    have ha := h.act .cycle
    rw [act, hc] at ha
    exact ha
  obtain ⟨-, -, -, -, hout⟩ := reachable_pc_exact hs
  obtain ⟨-, u, hu⟩ := hout (by rw [ht]; decide) []
  rw [ht] at hu
  exact ⟨t, u, hc, ht, hu⟩

end ChipEight.Processor
