import ChipEight.Host.Scripted
import ChipEight.Proofs.Machine.Parts
import ChipEight.Proofs.Memory.Listing
import ChipEight.Proofs.Processor.Effects
import ChipEight.Proofs.Processor.Runs
import ChipEight.Proofs.Processor.Shown

/-!
The trace of a straight run: what is reported of the instructions is the listing of the memory from
the first of them on. Where the one leaves memory, so does the other.
-/

namespace ChipEight

namespace Report

def isTrace : Report → Bool
  | instruction _ _ => true
  | _ => false

end Report

namespace Processor

variable {τ : Type} {s : Processor τ} {i : Instruction}

lemma effectReports_traceless (s : Processor τ) (i : Instruction) :
    (s.effectReports i).filter Report.isTrace = [] := by
  rw [effectReports]
  cases i.opcode with
  | unknown => cases s.options.strict <;> rfl
  | _ => rfl

lemma cycleReports_of_next? (hw : s.wait = none) (hi : s.next? = .ok i) :
    s.cycleReports = .instruction s.registers.pc i :: (s.advance 1).effectReports i := by
  have hf : s.fetch = .ok (i, s.advance 1) := by
    rw [fetch, hi]
    rfl
  -- while the fetch stands there, it would be evaluated
  rw [cycleReports]
  generalize s.fetch = r at hf ⊢
  rw [hf, hw]

end Processor

lemma Outcome.of_mapError_eq_done {ε ε' σ α : Type} {f : ε → ε'} {o : Outcome ε σ α} {a : α}
    {t : σ} (h : o.mapError f = .done a t) : o = .done a t := by
  cases o with
  | done b u =>
    cases h
    rfl
  | failed e u => cases h

lemma Journal.toList_add {j : Journal} (hj : j.threshold = .debug) (rs : List Report) :
    (j.add rs).toList = j.toList ++ rs := by
  have hr : rs.filter (fun r => decide (j.threshold.rank ≤ r.level.rank)) = rs := by
    rw [hj]
    exact List.filter_eq_self.mpr fun r _ => decide_eq_true (Nat.zero_le _)
  rw [toList, add, hr, List.reverse_append, List.reverse_reverse, toList]

namespace Machine

variable {τ η : Type}

lemma cycle_eq_done_iff {m m' : Machine τ η} {r : Option Instruction} :
    m.cycle = .done r m' ↔ ∃ p, m.processor.cycle = .done r p ∧
      m' = { m.report m.processor.cycleReports with processor := p } := by
  have hm : (m.report m.processor.cycleReports).processor = m.processor := rfl
  rw [cycle]
  dsimp only
  rw [hm]
  cases m.processor.cycle with
  | failed f p => simp
  | done r' p => simp [eq_comm]

variable [TimeScale τ]

def Steps (h : Host τ η) (m : Machine τ η) (i : Instruction) (m' : Machine τ η) : Prop :=
  m.tick h = .done (some i) m' ∨ m.cycle = .done (some i) m'

/-- Steps in a row, each of which goes on to the word behind its own and leaves memory as it is. -/
inductive StraightRun (h : Host τ η) :
    Machine τ η → List Instruction → Machine τ η → Prop
  | nil (m) : StraightRun h m [] m
  | cons {m m₁ m' i is} (step : m.Steps h i m₁)
      (pc : m₁.processor.registers.pc.toNat = m.processor.registers.pc.toNat + 2)
      (memory : m₁.processor.memory = m.processor.memory)
      (rest : StraightRun h m₁ is m') : StraightRun h m (i :: is) m'

variable {h : Host τ η} {m m₁ m' : Machine τ η} {i : Instruction} {is : List Instruction}

lemma Steps.exists_cycle (hs : m.Steps h i m₁) :
    ∃ q : Machine τ η, q.journal = m.journal ∧
      (∃ timer, q.processor = { m.processor with timer }) ∧ q.cycle = .done (some i) m₁ := by
  rcases hs with ht | hc
  · obtain ⟨timer, q, hq, ⟨e, he⟩ | he⟩ := m.tick_cases h
    · rw [he] at ht
      cases ht
    · rw [he] at ht
      refine ⟨q, ?_, ⟨timer, ?_⟩, Outcome.of_mapError_eq_done ht⟩
      · rw [hq]
      · rw [hq]
  · exact ⟨m, rfl, ⟨m.processor.timer, rfl⟩, hc⟩

lemma Steps.effect (hs : m.Steps h i m₁) (hw : m.processor.wait = none) :
    m.processor.next? = .ok i ∧
      (∃ timer u, Processor.Effect { m.processor with timer }.sampled m.processor.keys i u ∧
        m₁.processor = { u with executed := u.executed + 1 }) ∧
      ∃ rs, rs.filter Report.isTrace = [] ∧
        m₁.journal = m.journal.add (.instruction m.processor.registers.pc i :: rs) := by
  obtain ⟨q, hq, ⟨timer, ht⟩, hc⟩ := hs.exists_cycle
  obtain ⟨p, hd, rfl⟩ := cycle_eq_done_iff.mp hc
  have hqw : q.processor.wait = none := by
    rw [ht]
    exact hw
  obtain ⟨w, hs, -⟩ | ⟨-, j, u, hi, hj, he, rfl⟩ := Processor.cycle_done_cases hd
  · rw [hqw] at hs
    cases hs
  · cases hj
    have hr := Processor.cycleReports_of_next? hqw hi
    rw [ht] at hi he hr
    refine ⟨hi, ⟨timer, u, Processor.execute_effect he, rfl⟩, _,
      Processor.effectReports_traceless ({ m.processor with timer }.advance 1) i, ?_⟩
    change q.journal.add q.processor.cycleReports = _
    rw [hq, ht, hr]

lemma Steps.memory (hs : m.Steps h i m₁) (hw : m.processor.wait = none)
    (ho : i.opcode ∉ [.ldBVx, .ldMemVx]) : m₁.processor.memory = m.processor.memory := by
  obtain ⟨-, ⟨timer, u, hu, hp⟩, -⟩ := hs.effect hw
  rw [hp]
  exact hu.memory ho

lemma Steps.traced (hs : m.Steps h i m₁) (hw : m.processor.wait = none)
    (hj : m.journal.threshold = .debug)
    (hp : m₁.processor.registers.pc.toNat = m.processor.registers.pc.toNat + 2) :
    m.processor.next? = .ok i ∧ m₁.processor.wait = none ∧ m₁.journal.threshold = .debug ∧
      ∃ rs, rs.filter Report.isTrace = [] ∧ m₁.journal.toList =
        m.journal.toList ++ .instruction m.processor.registers.pc i :: rs := by
  obtain ⟨hi, ⟨timer, u, hu, hpu⟩, rs, hrs, hju⟩ := hs.effect hw
  -- a key wait stays where it is
  have hk : i.opcode ≠ .ldVxK := by
    intro ho
    have hpc : u.registers.pc = m.processor.registers.pc := by
      rw [hu.pc, Processor.pcAfter, ho]
      rfl
    rw [hpu, hpc] at hp
    simp at hp
  refine ⟨hi, ?_, ?_, rs, hrs, ?_⟩
  · rw [hpu]
    change u.wait = none
    rw [hu.wait, if_neg hk]
    exact hw
  · rw [hju]
    exact hj
  · rw [hju, Journal.toList_add hj]

lemma StraightRun.traced (hr : StraightRun h m is m') (hw : m.processor.wait = none)
    (hj : m.journal.threshold = .debug) :
    ∃ ls rs, m.processor.memory.listing m.processor.registers.pc.toNat is.length = .ok ls ∧
      m'.journal.toList = m.journal.toList ++ rs ∧
      (rs.filter Report.isTrace).map Report.text = ls ∧
      ls = is.mapIdx (fun k i => i.line (m.processor.registers.pc.toNat + 2 * k)) ∧
      ∀ f, m'.processor.next? = .error f ↔ m.processor.memory.listing
        m.processor.registers.pc.toNat (is.length + 1) = .error f := by
  induction hr with
  | nil m =>
    refine ⟨[], [], rfl, (List.append_nil _).symm, rfl, rfl, fun f => ?_⟩
    rw [List.length_nil, Memory.listing_one_eq_error_iff, Processor.next?_eq_error_iff,
      Memory.readWord_eq_error_iff]
  | @cons m m₁ m' i is hs hp hm hr ih =>
    obtain ⟨hi, hw₁, hj₁, rs₁, ht₁, hl₁⟩ := hs.traced hw hj hp
    obtain ⟨ls, rs, hls, hl, ht, hx, hf⟩ := ih hw₁ hj₁
    rw [Processor.next?_eq_ok_iff] at hi
    have ha : (m₁.processor.registers.pc.toNat : ℤ) = m.processor.registers.pc.toNat + 2 := by
      rw [hp]
      rfl
    rw [ha, hm] at hls hf
    rw [ha] at hx
    refine ⟨i.line m.processor.registers.pc.toNat :: ls,
      .instruction m.processor.registers.pc i :: rs₁ ++ rs, ?_, ?_, ?_, ?_, fun f => ?_⟩
    · rw [List.length_cons, Memory.listing_succ hi, hls]
      rfl
    · rw [hl, hl₁, List.append_assoc]
    · rw [List.filter_append, List.filter_cons_of_pos rfl, ht₁, List.map_append, ht]
      rfl
    · have hk (k : ℕ) : (m.processor.registers.pc.toNat : ℤ) + 2 * (k + 1 : ℕ) =
          m.processor.registers.pc.toNat + 2 + 2 * k := by
        push_cast
        ring
      rw [List.mapIdx_cons, hx]
      simp only [hk, Nat.cast_zero, mul_zero, add_zero]
    · rw [hf, List.length_cons, Memory.listing_succ_eq_error_iff hi]

theorem trace_eq_listing (h : Host τ η) (m : Machine τ η) :
    (∀ addr count : ℤ,
      ((∃ f, m.processor.memory.listing addr count.toNat = .error f) ↔
        0 < count ∧ ¬ (0 ≤ addr ∧ addr + 2 * count ≤ 0x1000)) ∧
      ∀ f, m.processor.memory.listing addr count.toNat = .error f →
        ∃ k < count.toNat, ¬ Memory.Within (addr + 2 * k) 2 ∧ f = .memory (addr + 2 * k) 2) ∧
    ∀ is m', m.processor.wait = none → m.journal.threshold = .debug → StraightRun h m is m' →
      ∃ ls rs, m.processor.memory.listing m.processor.registers.pc.toNat is.length = .ok ls ∧
        m'.journal.toList = m.journal.toList ++ rs ∧
        (rs.filter Report.isTrace).map Report.text = ls ∧
        ls = is.mapIdx (fun k i => i.line (m.processor.registers.pc.toNat + 2 * k)) ∧
        ∀ f, m'.processor.next? = .error f ↔ m.processor.memory.listing
          m.processor.registers.pc.toNat (is.length + 1) = .error f :=
  ⟨fun addr count => ⟨m.processor.memory.listing_fails_iff addr count,
    fun _ => Memory.fault_of_listing⟩, fun _ _ hw hj hr => hr.traced hw hj⟩

def counting : Machine ℚ (ScriptedHost ℚ) where
  processor := .booted [0x60, 0x05, 0x70, 0x01]
  schedule := ⟨0, none, ⟨60, 1 / 60, 0⟩⟩
  host := .start 0 1 none false
  running := false
  frames := 0
  fault := none
  rom := none
  journal := .empty .debug

lemma counting_run :
    ∃ m', counting.StraightRun ScriptedHost.host [⟨0x6005⟩, ⟨0x7001⟩] m' := by
  obtain ⟨ha₁, hp₁, hw₁, ha₂, hp₂⟩ :
      (counting.tick ScriptedHost.host).answer = .ok (some ⟨0x6005⟩) ∧
      (counting.tick ScriptedHost.host).state.processor.registers.pc.toNat = 0x202 ∧
      (counting.tick ScriptedHost.host).state.processor.wait = none ∧
      (counting.tick ScriptedHost.host).state.cycle.answer = .ok (some ⟨0x7001⟩) ∧
      (counting.tick ScriptedHost.host).state.cycle.state.processor.registers.pc.toNat =
        0x204 := by
    decide +kernel
  obtain ⟨m₁, h₁⟩ := Outcome.answer_eq_ok.mp ha₁
  rw [h₁] at hp₁ hw₁ ha₂ hp₂
  obtain ⟨m₂, h₂⟩ := Outcome.answer_eq_ok.mp ha₂
  rw [Outcome.state] at hp₁ hw₁ h₂ hp₂
  rw [h₂] at hp₂
  have hs₁ : counting.Steps ScriptedHost.host ⟨0x6005⟩ m₁ := .inl h₁
  have hs₂ : m₁.Steps ScriptedHost.host ⟨0x7001⟩ m₂ := .inr h₂
  refine ⟨m₂, .cons hs₁ hp₁ (hs₁.memory rfl (by decide)) (.cons hs₂ ?_ (hs₂.memory hw₁ (by decide))
    (.nil m₂))⟩
  rw [hp₁]
  exact hp₂

theorem counting_listed :
    ∃ m', counting.StraightRun ScriptedHost.host [⟨0x6005⟩, ⟨0x7001⟩] m' ∧
      counting.processor.memory.listing 0x200 2 =
        .ok ["0x200: 6005  LD V0, 0x05", "0x202: 7001  ADD V0, 0x01"] ∧
      (m'.journal.toList.filter Report.isTrace).map Report.text =
        ["0x200: 6005  LD V0, 0x05", "0x202: 7001  ADD V0, 0x01"] := by
  obtain ⟨m', hr⟩ := counting_run
  obtain ⟨ls, rs, hl, hj, ht, hx, -⟩ :=
    (trace_eq_listing ScriptedHost.host counting).2 [⟨0x6005⟩, ⟨0x7001⟩] m' rfl rfl hr
  have hls : ls = ["0x200: 6005  LD V0, 0x05", "0x202: 7001  ADD V0, 0x01"] := by
    rw [hx]
    decide +kernel
  rw [hls] at hl ht
  refine ⟨m', hr, hl, ?_⟩
  rw [hj]
  exact ht

end Machine

end ChipEight
