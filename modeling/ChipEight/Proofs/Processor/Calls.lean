import ChipEight.Proofs.Processor.Invariant

/-!
Calls and returns. However long it takes, and whatever is called in between, the frame of a call
stays where it is until the return that takes it off, and that return goes on behind the call.
-/

namespace ChipEight.Processor

variable {τ : Type} {s t : Processor τ} {f : Fault} {i : Instruction} {keys : KeySample}

lemma stack_of_failed (h : s.cycle = .failed f t) : t.stack = s.stack := by
  obtain ⟨-, ⟨-, rfl⟩ | ⟨i, -, -, rfl⟩⟩ := cycle_failed_iff.mp h
  · rfl
  · rfl

lemma stack_poll (w : KeyWait) : (s.poll w keys).2.stack = s.stack := by
  rw [poll]
  cases w.answer? keys <;> rfl

lemma stack_of_call (h : (s.advance 1).execute keys i = .done () t) (ho : i.opcode = .call) :
    t.stack = { s.stack with frames := (s.registers.advance 1).pc :: s.stack.frames } := by
  rw [(execute_effect h).stack, framesAfter, ho]

lemma stack_of_ret (h : (s.advance 1).execute keys i = .done () t) (ho : i.opcode = .ret) :
    s.stack = { t.stack with frames := t.registers.pc :: t.stack.frames } := by
  rw [execute, ho] at h
  obtain ⟨addr, rest, hs, rfl⟩ := ret_done_iff.mp h
  change s.stack.frames = addr :: rest at hs
  change s.stack = { s.stack with frames := addr :: rest }
  rw [← hs]

lemma stack_of_other (h : (s.advance 1).execute keys i = .done () t)
    (ho : i.opcode ∉ [.call, .ret]) : t.stack = s.stack := by
  rw [(execute_effect h).stack, framesAfter]
  split <;> simp_all

lemma execute_frames_cases (h : (s.advance 1).execute keys i = .done () t) :
    t.stack.frames = s.stack.frames ∨
      t.stack.frames = (s.registers.advance 1).pc :: s.stack.frames ∨
      s.stack.frames = t.registers.pc :: t.stack.frames := by
  by_cases hc : i.opcode = .call
  · exact .inr (.inl (congrArg CallStack.frames (stack_of_call h hc)))
  · by_cases hr : i.opcode = .ret
    · exact .inr (.inr (congrArg CallStack.frames (stack_of_ret h hr)))
    · exact .inl (congrArg CallStack.frames (stack_of_other h (by simp [hc, hr])))

lemma cycle_frames_cases (s : Processor τ) :
    s.cycle.state.stack.frames = s.stack.frames ∨
      s.cycle.state.stack.frames = (s.registers.advance 1).pc :: s.stack.frames ∨
      s.stack.frames = s.cycle.state.registers.pc :: s.cycle.state.stack.frames := by
  cases hc : s.cycle with
  | failed f t =>
    have ht := stack_of_failed hc
    simp only [Outcome.state]
    exact .inl (congrArg CallStack.frames ht)
  | done r t =>
    simp only [Outcome.state]
    obtain ⟨w, -, -, ht⟩ | ⟨-, i, u, -, -, he, ht⟩ := cycle_done_cases hc
    · rw [ht, stack_poll]
      exact .inl rfl
    · have hf := execute_frames_cases he
      rw [ht]
      exact hf

/-- What may follow a state when nothing but cycles writes to the stack and the program counter. -/
def Leads (s t : Processor τ) : Prop :=
  t = s.cycle.state ∨ t.stack.frames = s.stack.frames ∧ t.registers.pc = s.registers.pc

lemma leads_act [TimeScale τ] (s : Processor τ) (a : Action τ) : s.Leads (s.act a) := by
  cases a with
  | cycle => exact .inl rfl
  | event e => exact .inr ⟨rfl, rfl⟩

variable {ret : UInt16} {below : List UInt16}

lemma Leads.bracket (h : s.Leads t) (hs : ret :: below <:+ s.stack.frames) :
    ret :: below <:+ t.stack.frames ∨ t.stack.frames = below ∧ t.registers.pc = ret := by
  obtain rfl | ⟨ht, -⟩ := h
  · obtain hc | hc | hc := cycle_frames_cases s
    · rw [hc]
      exact .inl hs
    · rw [hc]
      exact .inl (hs.trans (List.suffix_cons _ _))
    · rw [hc, List.suffix_cons_iff] at hs
      obtain hs | hs := hs
      · rw [List.cons.injEq] at hs
        exact .inr ⟨hs.2.symm, hs.1.symm⟩
      · exact .inl hs
  · rw [ht]
    exact .inl hs

lemma leads_bracket {u : ℕ → Processor τ} (hu : ∀ n, (u n).Leads (u (n + 1)))
    (h0 : ret :: below <:+ (u 0).stack.frames) {n : ℕ}
    (hn : ∀ m < n, (u m).stack.depth ≠ below.length) :
    ret :: below <:+ (u n).stack.frames ∨
      (u n).stack.frames = below ∧ (u n).registers.pc = ret := by
  -- the old depth can only be come to from one above it, by a return that takes off `ret`
  induction n with
  | zero => exact .inl h0
  | succ n ih =>
    obtain hs | ⟨hs, -⟩ := ih fun m hm => hn m (by omega)
    · exact (hu n).bracket hs
    · exact absurd (congrArg List.length hs) (hn n (by omega))

lemma cycle_of_call (hw : s.wait = none) (hi : s.next? = .ok i) (ho : i.opcode = .call)
    (hf : ¬ s.stack.Full) :
    ∃ t, s.cycle = .done (some i) t ∧ t.wait = none ∧ t.memory = s.memory ∧
      t.stack = { s.stack with frames := (s.registers.advance 1).pc :: s.stack.frames } ∧
      t.registers.pc = .ofNat i.nnn := by
  have he : (s.sampled.advance 1).execute s.keys i = (s.sampled.advance 1).call i.nnn := by
    rw [execute, ho]
  have hc : (s.sampled.advance 1).call i.nnn = .done () _ := call_done_iff.mpr ⟨hf, rfl⟩
  rw [cycle_of_next? hw hi, he, hc]
  exact ⟨_, rfl, hw, rfl, rfl, Registers.pc_jump _ _⟩

lemma cycle_of_ret (hw : s.wait = none) (hi : s.next? = .ok i) (ho : i.opcode = .ret)
    (hs : s.stack.frames = ret :: below) :
    ∃ t, s.cycle = .done (some i) t ∧ t.wait = none ∧ t.memory = s.memory ∧
      t.stack = { s.stack with frames := below } ∧ t.registers.pc = ret := by
  have he : (s.sampled.advance 1).execute s.keys i = (s.sampled.advance 1).ret := by
    rw [execute, ho]
  have hr := (ret_done_iff (s := s.sampled.advance 1)).mpr ⟨ret, below, hs, rfl⟩
  rw [cycle_of_next? hw hi, he, hr]
  exact ⟨_, rfl, hw, rfl, rfl, rfl⟩

lemma frames_of_call [TimeScale τ] (h : Reachable s) (hc : s.cycle = .done (some i) t)
    (ho : i.opcode = .call) :
    s.next? = .ok i ∧ t.stack.frames = (s.registers.advance 1).pc :: s.stack.frames := by
  obtain ⟨hi, u, he, rfl⟩ := h.wellFormed.executed hc (by simp [ho])
  exact ⟨hi, congrArg CallStack.frames (stack_of_call he ho)⟩

theorem call_bracketed [TimeScale τ] (h : Reachable s) (hc : s.cycle = .done (some i) t)
    (ho : i.opcode = .call) {u : ℕ → Processor τ} (h0 : u 0 = t)
    (hu : ∀ n, (u n).Leads (u (n + 1))) :
    (s.registers.pc + 2).toNat = s.registers.pc.toNat + 2 ∧
      (∀ n, (∀ m ≤ n, s.stack.depth < (u m).stack.depth) →
        (s.registers.pc + 2) :: s.stack.frames <:+ (u n).stack.frames) ∧
      (∀ n, (∀ m < n, (u m).stack.depth ≠ s.stack.depth) →
        (u n).stack.depth = s.stack.depth →
        (u n).stack.frames = s.stack.frames ∧ (u n).registers.pc = s.registers.pc + 2) ∧
      ∀ (r r' : Processor τ) (f : Fault), r.cycle = .failed f r' → r'.stack = r.stack := by
  obtain ⟨hi, ht⟩ := frames_of_call h hc ho
  have hp : (s.registers.advance 1).pc = s.registers.pc + 2 := Registers.pc_advance _ 1
  have hb : (s.registers.pc + 2) :: s.stack.frames <:+ (u 0).stack.frames := by
    rw [h0, ht, hp]
  refine ⟨?_, ?_, ?_, fun r r' f hf => stack_of_failed hf⟩
  · rw [← hp, pc_behind hi]
  · intro n hn
    obtain hs | ⟨hs, -⟩ := leads_bracket hu hb fun m (hm : m < n) => (hn m hm.le).ne'
    · exact hs
    · exact absurd (congrArg List.length hs) (hn n le_rfl).ne'
  · intro n hn hd
    obtain hs | hs := leads_bracket hu hb hn
    · have hl : s.stack.depth + 1 ≤ (u n).stack.depth := hs.length_le
      omega
    · exact hs

def nested : Processor ℚ := booted [0x22, 0x04, 0x00, 0x00, 0x22, 0x08, 0x00, 0xEE, 0x00, 0xEE]

theorem nested_returns :
    ∃ t, nested.cycle = .done (some ⟨0x2204⟩) t ∧
      ∀ u : ℕ → Processor ℚ, u 0 = t → (∀ n, u (n + 1) = (u n).cycle.state) →
        (u 1).stack.frames = [0x206, 0x202] ∧
          (u 3).stack.frames = [] ∧ (u 3).registers.pc = 0x202 := by
  have room {frames : List UInt16} (h : frames.length < 16) :
      ¬ CallStack.Full ⟨some 16, frames⟩ := by
    rintro ⟨_, ⟨⟩, hd⟩
    exact absurd h (not_lt.mpr hd)
  have hi : nested.next? = .ok ⟨0x2204⟩ := next?_booted 0x22 0x04 _
  obtain ⟨t, h, hw, hm, hs, hp⟩ := cycle_of_call rfl hi rfl (room (by decide))
  have hret : (nested.registers.advance 1).pc = 0x202 := Registers.pc_advance _ 1
  rw [hret] at hs
  refine ⟨t, h, fun u h0 hu => ?_⟩
  have hr : Reachable nested := booted_reachable _
  obtain ⟨-, -, hb, -⟩ := call_bracketed hr h rfl h0 fun n => by
    rw [hu n]
    exact leads_act (u n) .cycle
  rw [← h0] at hw hm hs hp
  have hi₁ : (u 0).next? = .ok ⟨0x2208⟩ := next?_loaded (k := 4) hm hp (by decide)
  obtain ⟨t₁, h₁, hw₁, hm₁, hs₁, hp₁⟩ := cycle_of_call hw hi₁ rfl
    (by rw [hs]; exact room (by decide))
  have hret₁ : ((u 0).registers.advance 1).pc = 0x206 := by
    rw [Registers.pc_advance, hp]
    rfl
  have hu₁ : u 1 = t₁ := (hu 0).trans (congrArg Outcome.state h₁)
  rw [hret₁, hs, ← hu₁] at hs₁
  rw [← hu₁] at hw₁ hm₁ hp₁
  have hi₂ : (u 1).next? = .ok ⟨0x00EE⟩ :=
    next?_loaded (k := 8) (hm₁.trans hm) hp₁ (by decide)
  obtain ⟨t₂, h₂, hw₂, hm₂, hs₂, hp₂⟩ := cycle_of_ret hw₁ hi₂ rfl (congrArg CallStack.frames hs₁)
  have hu₂ : u 2 = t₂ := (hu 1).trans (congrArg Outcome.state h₂)
  rw [hs₁, ← hu₂] at hs₂
  rw [← hu₂] at hw₂ hm₂ hp₂
  have hi₃ : (u 2).next? = .ok ⟨0x00EE⟩ :=
    next?_loaded (k := 6) (hm₂.trans (hm₁.trans hm)) hp₂ (by decide)
  obtain ⟨t₃, h₃, -, -, hs₃, -⟩ := cycle_of_ret hw₂ hi₃ rfl (congrArg CallStack.frames hs₂)
  have hu₃ : u 3 = t₃ := (hu 2).trans (congrArg Outcome.state h₃)
  refine ⟨congrArg CallStack.frames hs₁, hb 3 ?_ ?_⟩
  · intro m hm
    interval_cases m
    · simp [hs, CallStack.depth, nested, booted, initial]
    · simp [hs₁, CallStack.depth, nested, booted, initial]
    · simp [hs₂, CallStack.depth, nested, booted, initial]
  · rw [hu₃, hs₃]
    rfl

end ChipEight.Processor
