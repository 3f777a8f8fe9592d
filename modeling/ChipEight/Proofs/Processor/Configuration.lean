import ChipEight.Proofs.Processor.Calls
import ChipEight.Proofs.Processor.Surroundings

/-!
What the configuration of a processor decides. Two processors that differ in nothing else stay so
until one of them meets an instruction that the other is not allowed, or a shift that takes its bits
from different registers.
-/

namespace ChipEight

variable {τ : Type}

structure Configuration where
  capacity : Option ℕ
  options : Options
  deriving DecidableEq

namespace Processor

def configuration (s : Processor τ) : Configuration := ⟨s.stack.capacity, s.options⟩

def configured (s : Processor τ) (c : Configuration) : Processor τ :=
  { s with stack := { s.stack with capacity := c.capacity }, options := c.options }

end Processor

namespace Configuration

/-- The fault that keeps a processor from executing the instruction `i` under the configuration `c`
where `d` lets it. -/
inductive Forbids (c d : Configuration) (s : Processor τ) (i : Instruction) : Fault → Prop
  | unknown : i.opcode = .unknown → c.options.strict = true → d.options.strict = false →
    Forbids c d s i (.unknownOpcode i.word.toNat s.registers.pc.toNat)
  | call : i.opcode = .call → c.capacity = some s.stack.depth →
    (∀ n, d.capacity = some n → s.stack.depth < n) →
    Forbids c d s i (.stackOverflow s.stack.depth (s.registers.pc.toNat + 2))

def ShiftsOther (c d : Configuration) (s : Processor τ) (i : Instruction) : Prop :=
  i.opcode ∈ [.shr, .shl] ∧ c.options.shiftUsesVy ≠ d.options.shiftUsesVy ∧ s.v i.x ≠ s.v i.y

def Disagree (c d : Configuration) (s : Processor τ) : Prop :=
  s.wait = none ∧ ∃ i, s.next? = .ok i ∧
    ((∃ f, c.Forbids d s i f) ∨ (∃ f, d.Forbids c s i f) ∨ c.ShiftsOther d s i)

lemma Forbids.configured {c d e : Configuration} {s : Processor τ} {i : Instruction} {f : Fault}
    (h : c.Forbids d s i f) : c.Forbids d (s.configured e) i f := by
  cases h with
  | unknown ho hc hd => exact .unknown ho hc hd
  | call ho hc hd => exact .call ho hc hd

end Configuration

namespace Processor

open ChipEight.Configuration

variable {s t : Processor τ} {i : Instruction} {f : Fault} {c d : Configuration}

lemma configuration_cycle : s.cycle.state.configuration = s.configuration := by
  obtain ⟨registers, wait, executed, unknowns, hs⟩ | ⟨i, u, he, hs⟩ := s.cycle_state_cases
  · rw [hs]
    rfl
  · have e := execute_effect he
    rw [hs]
    change (⟨u.stack.capacity, u.options⟩ : Configuration) = s.configuration
    rw [e.stack, e.options]
    rfl

lemma configured_of_placed {e : Surroundings τ} (hk : e.keypad = s.cycle.state.keypad)
    (ht : e.timer = s.cycle.state.timer) (he : ⟨e.capacity, e.options⟩ = d) :
    s.cycle.mapState (·.placed e) = s.cycle.mapState (·.configured d) := by
  subst he
  refine Outcome.mapState_congr ?_
  rw [placed, hk, ht]
  rfl

lemma reached_smaller {a b : Option ℕ} {depth : ℕ} (ha : ∀ n, a = some n → depth ≤ n)
    (hb : ∀ n, b = some n → depth ≤ n) (hab : a ≠ b) (hf : ∃ n, a = some n ∧ n ≤ depth) :
    a = some depth ∧ ∀ n, b = some n → depth < n := by
  obtain ⟨n, hn, hl⟩ := hf
  obtain rfl : n = depth := le_antisymm hl (ha n hn)
  refine ⟨hn, fun m hm => lt_of_le_of_ne (hb m hm) ?_⟩
  rintro rfl
  exact hab (hn.trans hm.symm)

lemma overlooks_of_agreed (hs : ∀ n, s.stack.capacity = some n → s.stack.depth ≤ n)
    (hd : ∀ n, d.capacity = some n → s.stack.depth ≤ n)
    (h : ¬ s.configuration.Disagree d s) (hw : s.wait = none) (hi : s.next? = .ok i) :
    s.Overlooks s.keys ⟨s.keypad, s.timer, d.capacity, d.options⟩ s.keys i := by
  have ha : ¬ ((∃ f, s.configuration.Forbids d s i f) ∨ (∃ f, d.Forbids s.configuration s i f) ∨
      s.configuration.ShiftsOther d s i) := fun hf => h ⟨hw, i, hi, hf⟩
  simp only [not_or, not_exists] at ha
  obtain ⟨hcd, hdc, hsh⟩ := ha
  rw [Overlooks]
  cases ho : i.opcode with
  | call =>
    by_cases hc : d.capacity = s.stack.capacity
    · exact .inl hc
    · refine .inr ⟨fun hf => ?_, fun hf => ?_⟩
      · obtain ⟨hn, hl⟩ := reached_smaller hs hd (Ne.symm hc) hf
        exact hcd _ (.call ho hn hl)
      · obtain ⟨hn, hl⟩ := reached_smaller hd hs hc hf
        exact hdc _ (.call ho hn hl)
  | shr | shl =>
    rw [ShiftsOther, ho] at hsh
    by_cases hc : d.options.shiftUsesVy = s.options.shiftUsesVy
    · exact .inl hc
    · refine .inr ?_
      by_contra hv
      exact hsh ⟨by simp, Ne.symm hc, hv⟩
  | unknown =>
    change d.options.strict = s.options.strict
    cases hst : s.options.strict <;> cases hdt : d.options.strict
    · rfl
    · exact absurd (Forbids.unknown ho hdt hst) (hdc _)
    · exact absurd (Forbids.unknown ho hst hdt) (hcd _)
    · rfl
  | skp | sknp | ldVxK | ldVxDt => rfl
  | _ => exact trivial

lemma cycle_configured (hc : s.configuration = c)
    (hs : ∀ n, s.stack.capacity = some n → s.stack.depth ≤ n)
    (hd : ∀ n, d.capacity = some n → s.stack.depth ≤ n) (h : ¬ c.Disagree d s) :
    (s.configured d).cycle = s.cycle.mapState (·.configured d) := by
  subst hc
  let e : Surroundings τ := ⟨s.keypad, s.timer, d.capacity, d.options⟩
  change (s.placed e).cycle = _
  have hk : s.keypad.sample.2 = s.cycle.state.keypad := keypad_cycle.symm
  cases hw : s.wait with
  | some w =>
    rw [cycle_placed_of_wait (e := e) hw rfl]
    exact configured_of_placed hk (timer_cycle_of_wait hw).symm rfl
  | none =>
    cases hi : s.next? with
    | error f =>
      rw [cycle_placed_of_error (e := e) hw hi]
      exact configured_of_placed hk (timer_cycle_of_error hw hi).symm rfl
    | ok i =>
      rw [cycle_placed (e := e) hw hi (overlooks_of_agreed hs hd h hw hi)]
      exact configured_of_placed hk (timer_cycle hw hi).symm rfl

lemma configured_configured (hc : s.configuration = c) : (s.configured d).configured c = s := by
  subst hc
  rfl

lemma refused (hc : s.configuration = c) (hw : s.wait = none) (hi : s.next? = .ok i)
    (h : c.Forbids d s i f) :
    (∃ u, s.cycle = .failed f u) ∧ ∃ u, (s.configured d).cycle = .done (some i) u := by
  subst hc
  have hf : s.fault? i = some f ∧ (s.configured d).fault? i = none := by
    cases h with
    | unknown ho hc hd =>
      have hc : s.options.strict = true := hc
      have hd : (s.configured d).options.strict = false := hd
      simp [fault?, ho, hc, hd]
    | call ho hc hd =>
      have hc : s.stack.capacity = some s.stack.depth := hc
      have hp : (s.registers.advance 1).pc.toNat = (s.registers.pc.toNat : ℤ) + 2 := by
        rw [pc_behind hi]
        rfl
      refine ⟨by simp [fault?, ho, hc, hp], ?_⟩
      rw [fault?, ho]
      change (d.capacity.bind fun n => if n ≤ s.stack.depth then _ else none) = none
      cases hn : d.capacity with
      | none => rfl
      | some n => exact if_neg (not_le.mpr (hd n hn))
  exact ⟨⟨_, cycle_failed_iff.mpr ⟨hw, .inr ⟨i, hi, hf.1, rfl⟩⟩⟩,
    exists_cycle_done (s := s.configured d) hw hi hf.2⟩

end Processor

structure Equipment (τ : Type) where
  memory : Memory
  screen : Framebuffer
  timer : Timer τ
  keypad : Keypad
  random : RandomSource

namespace Processor

variable [TimeScale τ]

def started (q : Equipment τ) (c : Configuration) : Processor τ :=
  { (initial ⟨c.capacity, []⟩ q.random c.options : Processor τ) with
    memory := q.memory
    screen := q.screen
    timer := q.timer
    keypad := q.keypad }

variable {q : Equipment τ} {as : List (Action τ)}

lemma wellFormed_started : WellFormed (started q c) := by
  refine ⟨le_rfl, fun n _ => Nat.zero_le n, ?_⟩
  intro w hw
  cases hw

lemma configuration_run (s : Processor τ) (as : List (Action τ)) :
    (s.run as).configuration = s.configuration := by
  induction as generalizing s with
  | nil => rfl
  | cons a as ih =>
    refine (ih (s.act a)).trans ?_
    cases a with
    | cycle => exact configuration_cycle
    | event e => rfl

lemma cycle_agreed (hr : (started q d).run as = ((started q c).run as).configured d)
    (h : ¬ c.Disagree d ((started q c).run as)) :
    ((started q d).run as).cycle = ((started q c).run as).cycle.mapState (·.configured d) := by
  have hc : ((started q c).run as).configuration = c := configuration_run (started q c) as
  have hd := (wellFormed_run (wellFormed_started (q := q) (c := d)) as).depth
  rw [hr] at hd ⊢
  exact cycle_configured hc (wellFormed_run (wellFormed_started (q := q) (c := c)) as).depth hd h

lemma run_configured
    (h : ∀ bs, bs ++ [.cycle] <+: as → ¬ c.Disagree d ((started q c).run bs)) :
    (started q d).run as = ((started q c).run as).configured d := by
  induction as using List.reverseRecOn with
  | nil => rfl
  | append_singleton as a ih =>
    have hr := ih fun bs hb => h bs (hb.trans (List.prefix_append as [a]))
    rw [run_concat, run_concat]
    cases a with
    | event e =>
      rw [hr]
      rfl
    | cycle =>
      rw [act, act, cycle_agreed hr (h as List.prefix_rfl), Outcome.state_mapState]

theorem configuration_decides (q : Equipment τ) (c d : Configuration) (as : List (Action τ))
    (h : ∀ bs, bs ++ [.cycle] <+: as → ¬ c.Disagree d ((started q c).run bs)) :
    (started q d).run as = ((started q c).run as).configured d ∧
      (¬ c.Disagree d ((started q c).run as) →
        ((started q d).run as).cycle =
          ((started q c).run as).cycle.mapState (·.configured d)) ∧
      ∀ i f, ((started q c).run as).wait = none → ((started q c).run as).next? = .ok i →
        (c.Forbids d ((started q c).run as) i f →
          (∃ u, ((started q c).run as).cycle = .failed f u) ∧
            ∃ u, ((started q d).run as).cycle = .done (some i) u) ∧
        (d.Forbids c ((started q c).run as) i f →
          (∃ u, ((started q d).run as).cycle = .failed f u) ∧
            ∃ u, ((started q c).run as).cycle = .done (some i) u) := by
  have hr := run_configured h
  have hc : ((started q c).run as).configuration = c := configuration_run (started q c) as
  refine ⟨hr, cycle_agreed hr, fun i f hw hi => ⟨fun hf => ?_, fun hf => ?_⟩⟩
  · rw [hr]
    exact refused hc hw hi hf
  · have hd : ((started q d).run as).configuration = d := configuration_run (started q d) as
    rw [hr] at hd ⊢
    rw [← configured_configured (d := d) hc]
    exact refused hd hw hi hf.configured

def calling : Equipment ℚ where
  memory := (Memory.zeros.loadProgram [0x22, 0x00]).2
  screen := .blank
  timer := .stopped
  keypad := .released
  random := .cycle #[] 0

def ofCapacity (n : ℕ) : Configuration := ⟨some n, .standard⟩

theorem second_call_refused :
    ∃ u v, ((started calling (ofCapacity 1)).run [.cycle]).cycle =
        .failed (.stackOverflow 1 0x202) u ∧
      ((started calling (ofCapacity 2)).run [.cycle]).cycle = .done (some ⟨0x2200⟩) v := by
  have hm₀ : (started calling (ofCapacity 1)).memory =
      (Memory.zeros.loadProgram [0x22, 0x00]).2 := rfl
  have hi : (started calling (ofCapacity 1)).next? = .ok ⟨0x2200⟩ :=
    next?_loaded (k := 0) hm₀ rfl (by decide)
  have hn : ¬ (started calling (ofCapacity 1)).stack.Full := by
    rintro ⟨_, ⟨⟩, hd⟩
    exact absurd hd (by decide)
  obtain ⟨t, ht, hw, hm, hs, hp⟩ := cycle_of_call rfl hi rfl hn
  have hr := run_of_done ht
  have hd : t.stack.depth = 1 := by
    rw [hs]
    rfl
  have hpc : t.registers.pc.toNat = 0x200 := by
    rw [hp]
    rfl
  have hi' : t.next? = .ok ⟨0x2200⟩ := next?_loaded (k := 0) hm hp (by decide)
  have ha (bs : List (Action ℚ)) (hb : bs ++ [.cycle] <+: [.cycle]) :
      ¬ (ofCapacity 1).Disagree (ofCapacity 2) ((started calling (ofCapacity 1)).run bs) := by
    obtain rfl : bs = [] := by simpa using hb.length_le
    rintro ⟨-, i, hj, hf⟩
    obtain rfl : Instruction.mk 0x2200 = i := Except.ok.inj (hi.symm.trans hj)
    obtain ⟨f, hf⟩ | ⟨f, hf⟩ | ⟨ho, -⟩ := hf
    · cases hf with
      | unknown ho => exact absurd ho (by decide)
      | call _ hc => exact absurd hc (by decide)
    · cases hf with
      | unknown ho => exact absurd ho (by decide)
      | call _ hc => exact absurd hc (by decide)
    · exact absurd ho (by decide)
  obtain ⟨-, -, h⟩ := configuration_decides calling (ofCapacity 1) (ofCapacity 2) [.cycle] ha
  rw [hr] at h ⊢
  have hf : (ofCapacity 1).Forbids (ofCapacity 2) t ⟨0x2200⟩ (.stackOverflow 1 0x202) := by
    have hc := Configuration.Forbids.call (c := ofCapacity 1) (d := ofCapacity 2) (s := t)
      (i := ⟨0x2200⟩) rfl (by rw [hd]; rfl) (by rw [hd]; rintro n ⟨⟩; decide)
    rw [hd, hpc] at hc
    exact hc
  obtain ⟨⟨u, hu⟩, v, hv⟩ := (h _ _ hw hi').1 hf
  exact ⟨u, v, hu, hv⟩

end Processor

end ChipEight
