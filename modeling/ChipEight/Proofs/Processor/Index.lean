import ChipEight.Proofs.Processor.Invariant

/-!
Where the index goes. Unless an address is loaded into it, it only grows; past the end of memory it
stays there, and then no byte is read or written through it.
-/

namespace ChipEight

namespace Processor

variable {τ : Type} {s t : Processor τ} {i : Instruction}

def addressings : List Opcode := [.ldI, .ldFVx]

def stride (s : Processor τ) (i : Instruction) : ℕ :=
  match i.opcode with
  | .addIVx => (s.v i.x).toNat
  | .ldMemVx | .ldVxMem => i.x + 1
  | _ => 0

def Reaches (i : Instruction) : Prop :=
  i.opcode ∈ [.ldBVx, .ldMemVx, .ldVxMem] ∨ i.opcode = .drw ∧ 0 < i.n.val

instance (i : Instruction) : Decidable (Reaches i) := inferInstanceAs (Decidable (_ ∨ _ ∧ _))

lemma indexAfter_eq_stride (ho : i.opcode ∉ addressings) :
    s.indexAfter i = s.registers.index + s.stride i := by
  rw [indexAfter, stride]
  cases h : i.opcode with
  | ldI | ldFVx => simp [h, addressings] at ho
  | addIVx | ldMemVx | ldVxMem => rfl
  | _ => exact (add_zero _).symm

lemma blockFault?_of_beyond (h : Memory.size ≤ s.registers.index) {n : ℕ} (hn : n ≠ 0) :
    s.blockFault? n = some (.memory s.registers.index n) := by
  refine blockFault?_eq_some_iff.mpr ⟨fun hm => ?_, rfl⟩
  have hl := hm.2.2
  omega

lemma Reaches.span_ne_zero (hi : Reaches i) : i.span ≠ 0 := by
  rw [Instruction.span]
  obtain hi | ⟨ho, hn⟩ := hi
  · simp only [List.mem_cons, List.not_mem_nil, or_false] at hi
    obtain ho | ho | ho := hi <;> simp [ho]
  · rw [ho]
    exact hn.ne'

lemma fault?_of_beyond (h : Memory.size ≤ s.registers.index) (hi : Reaches i) :
    s.fault? i = some (.memory s.registers.index i.span) :=
  fault?_memory_iff.mpr
    ⟨accesses_of_span hi.span_ne_zero, blockFault?_of_beyond h hi.span_ne_zero⟩

lemma cycle_of_beyond (h : Memory.size ≤ s.registers.index) (hw : s.wait = none)
    (hn : s.next? = .ok i) (hi : Reaches i) :
    ∃ n t, s.cycle = .failed (.memory s.registers.index n) t := by
  have hf := fault?_of_beyond h hi
  exact ⟨i.span, _, cycle_failed_iff.mpr ⟨hw, .inr ⟨i, hn, hf, rfl⟩⟩⟩

lemma not_reaches_of_done {keys : KeySample} (h : Memory.size ≤ s.registers.index)
    (he : (s.advance 1).execute keys i = .done () t) : ¬ Reaches i := by
  intro hi
  have hf := fault?_of_beyond h hi
  rw [fault?_of_done he] at hf
  cases hf

lemma memory_cycle_of_beyond (h : Memory.size ≤ s.registers.index) :
    s.cycle.state.memory = s.memory := by
  obtain ⟨registers, wait, executed, unknowns, hs⟩ | ⟨i, u, he, hs⟩ := s.cycle_state_cases
  · rw [hs]
    rfl
  · have hi := not_reaches_of_done (s := s.sampled) h he
    rw [hs]
    refine (execute_effect he).memory fun hm => hi (.inl ?_)
    simp only [List.mem_cons, List.not_mem_nil, or_false] at hm ⊢
    tauto

lemma screen_draw_zero {x y : Digit} (h : s.draw x y 0 = .done () t) : t.screen = s.screen := by
  obtain ⟨sprite, hr, rfl⟩ := draw_done h
  obtain ⟨-, hn⟩ := Memory.readBlock_eq_ok_iff.mp hr
  have hs : sprite = [] := hn
  subst hs
  change (s.screen.draw (s.v x).toNat (s.v y).toNat []).2 = s.screen
  rw [Framebuffer.draw, if_neg fun ho => lt_irrefl 0 ho.1]

lemma screen_of_beyond (h : Memory.size ≤ s.registers.index) (hs : WellFormed s)
    (hc : s.cycle = .done (some i) t) (ho : i.opcode = .drw) :
    i.n = 0 ∧ t.screen = s.screen := by
  obtain ⟨-, u, he, ht⟩ := hs.executed hc (by simp [ho])
  have hi := not_reaches_of_done (s := s.sampled) h he
  have hn : i.n = 0 := by
    by_contra hn
    exact hi (.inr ⟨ho, Nat.pos_of_ne_zero fun h0 => hn (Fin.ext h0)⟩)
  rw [execute, ho, hn] at he
  have hu := screen_draw_zero he
  rw [ht]
  exact ⟨hn, hu⟩

variable [TimeScale τ] {a : Action τ} {as : List (Action τ)}

lemma WellFormed.index_act (h : WellFormed s) (a : Action τ)
    (ha : ∀ i ∈ s.answer? a, i.opcode ∉ addressings) :
    (s.act a).registers.index = s.registers.index + ((s.answer? a).elim 0 s.stride : ℕ) := by
  cases a with
  | event e => exact (add_zero _).symm
  | cycle =>
    rw [answer?] at ha ⊢
    rw [act]
    cases hc : s.cycle with
    | failed f t =>
      obtain ⟨-, ⟨-, rfl⟩ | ⟨i, -, -, rfl⟩⟩ := cycle_failed_iff.mp hc
      · exact (add_zero _).symm
      · exact (add_zero _).symm
    | done r t =>
      simp only [hc] at ha ⊢
      obtain ⟨w, -, rfl, rfl⟩ | ⟨i, k, rfl, -, -, ho, rfl⟩ | ⟨i, u, rfl, -, -, he, rfl⟩ :=
        h.done_cases hc
      · exact (add_zero _).symm
      · have hs : s.stride i = 0 := by rw [stride, ho]
        rw [Option.elim_some, hs]
        exact (add_zero _).symm
      · have hi := indexAfter_eq_stride (s := s.sampled) (ha i rfl)
        rw [← (execute_effect he).index] at hi
        exact hi

lemma WellFormed.index_le_act (h : WellFormed s) (a : Action τ)
    (ha : ∀ i ∈ s.answer? a, i.opcode ∉ addressings) :
    s.registers.index ≤ (s.act a).registers.index := by
  rw [h.index_act a ha]
  exact le_add_of_nonneg_right (Int.natCast_nonneg _)

lemma memory_act_of_beyond (h : Memory.size ≤ s.registers.index) (a : Action τ) :
    (s.act a).memory = s.memory := by
  cases a with
  | cycle => exact memory_cycle_of_beyond h
  | event e => rfl

lemma unaddressed_run {P : Processor τ → Prop} (h : WellFormed s) (hs : P s)
    (ha : ∀ i ∈ s.answers as, i.opcode ∉ addressings)
    (hp : ∀ (t : Processor τ) (a : Action τ), WellFormed t → P t →
      (∀ i ∈ t.answer? a, i.opcode ∉ addressings) → P (t.act a)) :
    P (s.run as) := by
  induction as generalizing s with
  | nil => exact hs
  | cons a as ih =>
    simp only [answers, List.mem_append, Option.mem_toList] at ha
    have hs' := hp s a h hs fun i hi => ha i (.inl hi)
    exact ih (wellFormed_act h a) hs' fun i hi => ha i (.inr hi)

lemma index_le_run (h : WellFormed s) (ha : ∀ i ∈ s.answers as, i.opcode ∉ addressings) :
    s.registers.index ≤ (s.run as).registers.index := by
  refine unaddressed_run (P := fun t => s.registers.index ≤ t.registers.index) h le_rfl ha ?_
  intro t a ht hi ha
  exact hi.trans (ht.index_le_act a ha)

lemma memory_run_of_beyond (h : WellFormed s) (hx : Memory.size ≤ s.registers.index)
    (ha : ∀ i ∈ s.answers as, i.opcode ∉ addressings) : (s.run as).memory = s.memory := by
  -- A step keeps the memory only while the index is beyond it, so both are carried along.
  refine (unaddressed_run (P := fun t => Memory.size ≤ t.registers.index ∧ t.memory = s.memory)
    h ⟨hx, rfl⟩ ha ?_).2
  rintro t a ht ⟨hb, hm⟩ ha
  exact ⟨hb.trans (ht.index_le_act a ha), (memory_act_of_beyond hb a).trans hm⟩

theorem index_never_returns (h : Reachable s) (as : List (Action τ))
    (ha : ∀ i ∈ s.answers as, i.opcode ∉ addressings) :
    s.registers.index ≤ (s.run as).registers.index ∧
      (∀ bs a cs, as = bs ++ a :: cs →
        ((s.run bs).act a).registers.index = (s.run bs).registers.index +
          (((s.run bs).answer? a).elim 0 (s.run bs).stride : ℕ)) ∧
      (Memory.size ≤ s.registers.index →
        (s.run as).memory = s.memory ∧
          (∀ i, (s.run as).wait = none → (s.run as).next? = .ok i → Reaches i →
            ∃ n t, (s.run as).cycle = .failed (.memory (s.run as).registers.index n) t) ∧
          (s.run as).cycle.state.memory = s.memory ∧
          ∀ i t, (s.run as).cycle = .done (some i) t → i.opcode = .drw →
            i.n = 0 ∧ t.screen = (s.run as).screen) := by
  refine ⟨index_le_run h.wellFormed ha, ?_, fun hx => ?_⟩
  · rintro bs a cs rfl
    refine (wellFormed_run h.wellFormed bs).index_act a fun i hi => ha i ?_
    rw [answers_append, answers, List.mem_append, List.mem_append, Option.mem_toList]
    exact .inr (.inl hi)
  · have hr := hx.trans (index_le_run h.wellFormed ha)
    have hm := memory_run_of_beyond h.wellFormed hx ha
    refine ⟨hm, fun i hw hn hi => cycle_of_beyond hr hw hn hi,
      (memory_cycle_of_beyond hr).trans hm, fun i t hc ho => ?_⟩
    exact screen_of_beyond hr (wellFormed_run h.wellFormed as) hc ho

def overrun : Processor ℚ := booted [0xAF, 0xFF, 0xF0, 0x65, 0xF0, 0x1E, 0xF1, 0x65]

lemma overrun_cycles :
    ∃ s : Processor ℚ, overrun.run [.cycle, .cycle] = s ∧ s.wait = none ∧
      s.memory = overrun.memory ∧ s.registers.pc = 0x204 ∧ s.registers.index = 0x1000 := by
  have hi : overrun.next? = .ok ⟨0xAFFF⟩ := next?_booted 0xAF 0xFF _
  have ho : Instruction.opcode ⟨0xAFFF⟩ = .ldI := rfl
  obtain ⟨u, hc, hu⟩ := exists_cycle_effect rfl hi (by rw [fault?, ho])
  have hm : u.memory = overrun.memory := hu.memory (by decide)
  have hx : u.registers.index = 0xFFF := hu.index
  have hi₁ : u.next? = .ok ⟨0xF065⟩ := next?_loaded (k := 2) hm hu.pc (by decide)
  have ho₁ : Instruction.opcode ⟨0xF065⟩ = .ldVxMem := rfl
  have hb₁ : u.blockFault? 1 = none := by
    rw [blockFault?, hx]
    exact if_pos (by decide)
  have hf₁ : u.fault? ⟨0xF065⟩ = none := by
    rw [fault?, ho₁]
    exact hb₁
  obtain ⟨v, hc₁, hv⟩ := exists_cycle_effect
    (s := { u with executed := u.executed + 1 }) hu.wait hi₁ hf₁
  refine ⟨{ v with executed := v.executed + 1 }, ?_, hv.wait.trans hu.wait,
    (hv.memory (by decide)).trans hm, ?_, ?_⟩
  · rw [← List.singleton_append, run_concat, run_of_done hc, act, hc₁]
    rfl
  · change v.registers.pc = 0x204
    rw [hv.pc]
    change (u.registers.advance 1).pc = 0x204
    rw [Registers.pc_advance, hu.pc]
    rfl
  · change v.registers.index = 0x1000
    rw [hv.index]
    change u.registers.index + (0 + 1 : ℕ) = 0x1000
    rw [hx]
    rfl

theorem overrun_never_returns :
    ∃ s : Processor ℚ, s.registers.index = 0x1000 ∧ s.answers [.cycle] = [⟨0xF01E⟩] ∧
      ∃ x n t, 0x1000 ≤ x ∧ (s.run [.cycle]).cycle = .failed (.memory x n) t := by
  obtain ⟨s, hs, hw, hm, hp, hx⟩ := overrun_cycles
  have hr : Reachable s := by
    rw [← hs]
    exact (booted_reachable _).run _
  have hi : s.next? = .ok ⟨0xF01E⟩ := next?_loaded (k := 4) hm hp (by decide)
  have ho : Instruction.opcode ⟨0xF01E⟩ = .addIVx := rfl
  obtain ⟨u, hc, hu⟩ := exists_cycle_effect hw hi (by rw [fault?, ho])
  have ha : s.answers [.cycle] = [⟨0xF01E⟩] := by
    rw [answers, answers, answer?, hc]
    rfl
  obtain ⟨hg, -, h⟩ := index_never_returns hr [.cycle] fun i hi => by
    rw [ha, List.mem_singleton] at hi
    rw [hi]
    decide
  obtain ⟨-, hf, -⟩ := h hx.ge
  rw [run_of_done hc] at hg hf
  have hn : u.next? = .ok ⟨0xF165⟩ := by
    refine next?_loaded (k := 6) ((hu.memory (by decide)).trans hm) ?_ (by decide)
    rw [hu.pc]
    change (s.registers.advance 1).pc = _
    rw [Registers.pc_advance, hp]
    rfl
  obtain ⟨n, t, ht⟩ := hf _ (hu.wait.trans hw) hn (by decide)
  refine ⟨s, hx, ha, _, n, t, hx.ge.trans hg, ?_⟩
  rw [run_of_done hc]
  exact ht

end Processor

end ChipEight
