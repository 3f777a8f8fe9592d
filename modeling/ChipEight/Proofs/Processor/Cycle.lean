import ChipEight.Processor.Cycle
import ChipEight.Proofs.Memory
import ChipEight.Proofs.Registers

namespace ChipEight.Processor

variable {τ : Type}

def keys (s : Processor τ) : KeySample := s.keypad.sample.1

def sampled (s : Processor τ) : Processor τ := { s with keypad := s.keypad.sample.2 }

variable {s t u : Processor τ} {f : Fault} {i : Instruction} {w : KeyWait}

lemma next?_eq_error_iff :
    s.next? = .error f ↔
      ¬ Memory.Within s.registers.pc.toNat 2 ∧ f = .memory s.registers.pc.toNat 2 := by
  rw [← Memory.readWord_eq_error_iff (m := s.memory), next?]
  cases s.memory.readWord s.registers.pc.toNat <;> simp [Except.map]

lemma next?_eq_ok_iff :
    s.next? = .ok i ↔ s.memory.readWord s.registers.pc.toNat = .ok i.word := by
  cases i
  rw [next?]
  cases s.memory.readWord s.registers.pc.toNat <;> simp [Except.map]

lemma pc_of_next? (h : s.next? = .ok i) : s.registers.pc.toNat + 2 ≤ Memory.size := by
  have hm := Memory.within_of_readWord (next?_eq_ok_iff.mp h)
  have hs := hm.2.2
  omega

lemma pc_behind (h : s.next? = .ok i) :
    (s.registers.advance 1).pc.toNat = s.registers.pc.toNat + 2 := by
  have hp : s.registers.pc.toNat + 2 ≤ 4096 := pc_of_next? h
  have hr : s.registers.pc.toNat + 2 < 2 ^ 16 := by omega
  exact Registers.pc_advance_one hr

lemma poll_of_none {ks : KeySample} (h : w.answer? ks = none) :
    s.poll w ks = (none, { s with wait := some { w with previous := ks } }) := by
  rw [poll, h]

lemma poll_of_some {ks : KeySample} {k : Digit} (h : w.answer? ks = some k) :
    s.poll w ks =
      (some w.instruction,
        { (s.setV w.register (UInt8.ofNat k.val)).advance 1 with
          wait := none
          executed := s.executed + 1 }) := by
  rw [poll, h]

lemma sampled_of_sample {ks : KeySample} {kp : Keypad} (h : s.keypad.sample = (ks, kp)) :
    s.keys = ks ∧ s.sampled = { s with keypad := kp } := by
  rw [keys, sampled]
  rw [h]
  exact ⟨rfl, rfl⟩

lemma cycle_of_wait (hw : s.wait = some w) :
    s.cycle = .done (s.sampled.poll w s.keys).1 (s.sampled.poll w s.keys).2 := by
  rcases hk : s.keypad.sample with ⟨ks, kp⟩
  obtain ⟨hks, hkp⟩ := sampled_of_sample hk
  rw [cycle]
  rw [hk, hks, hkp]
  dsimp only
  rw [hw]

lemma fetch_sampled : s.sampled.fetch = s.next?.map fun i => (i, s.sampled.advance 1) := by
  rw [fetch]
  rfl

lemma cycle_of_next?_error (hw : s.wait = none) (hi : s.next? = .error f) :
    s.cycle = .failed f s.sampled := by
  have hf := fetch_sampled (s := s)
  rcases hk : s.keypad.sample with ⟨ks, kp⟩
  obtain ⟨-, hkp⟩ := sampled_of_sample hk
  rw [hi, hkp, hw] at hf
  rw [cycle]
  rw [hk, hkp]
  dsimp only
  rw [hw, hf]
  rfl

lemma cycle_of_next? (hw : s.wait = none) (hi : s.next? = .ok i) :
    s.cycle = match (s.sampled.advance 1).execute s.keys i with
      | .failed f t => .failed f t
      | .done _ t => .done (some i) { t with executed := t.executed + 1 } := by
  have hf := fetch_sampled (s := s)
  rcases hk : s.keypad.sample with ⟨ks, kp⟩
  obtain ⟨hks, hkp⟩ := sampled_of_sample hk
  rw [hi, hkp, hw] at hf
  rw [cycle]
  rw [hk, hks, hkp]
  dsimp only
  rw [hw, hf]
  rfl

lemma cycle_failed_cases (h : s.cycle = .failed f t) :
    s.wait = none ∧
      (s.next? = .error f ∧ t = s.sampled ∨
        ∃ i, s.next? = .ok i ∧ (s.sampled.advance 1).execute s.keys i = .failed f t) := by
  cases hw : s.wait with
  | some w =>
    rw [cycle_of_wait hw] at h
    cases h
  | none =>
    refine ⟨rfl, ?_⟩
    cases hi : s.next? with
    | error g =>
      rw [cycle_of_next?_error hw hi] at h
      cases h
      exact .inl ⟨rfl, rfl⟩
    | ok i =>
      rw [cycle_of_next? hw hi] at h
      cases he : (s.sampled.advance 1).execute s.keys i with
      | failed g u =>
        rw [he] at h
        cases h
        exact .inr ⟨i, rfl, he⟩
      | done _ u =>
        rw [he] at h
        cases h

lemma cycle_done_cases {r : Option Instruction} (h : s.cycle = .done r t) :
    (∃ w, s.wait = some w ∧ r = (s.sampled.poll w s.keys).1 ∧ t = (s.sampled.poll w s.keys).2) ∨
      s.wait = none ∧ ∃ i u, s.next? = .ok i ∧ r = some i ∧
        (s.sampled.advance 1).execute s.keys i = .done () u ∧
        t = { u with executed := u.executed + 1 } := by
  cases hw : s.wait with
  | some w =>
    rw [cycle_of_wait hw, Outcome.done.injEq] at h
    exact .inl ⟨w, rfl, h.1.symm, h.2.symm⟩
  | none =>
    refine .inr ⟨rfl, ?_⟩
    cases hi : s.next? with
    | error g =>
      rw [cycle_of_next?_error hw hi] at h
      cases h
    | ok i =>
      rw [cycle_of_next? hw hi] at h
      cases he : (s.sampled.advance 1).execute s.keys i with
      | failed g u =>
        rw [he] at h
        cases h
      | done _ u =>
        rw [he] at h
        cases h
        exact ⟨i, u, rfl, rfl, he, rfl⟩

end ChipEight.Processor
