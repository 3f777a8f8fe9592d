import ChipEight.Proofs.Processor.Configuration
import ChipEight.Proofs.Processor.KeyWait

/-!
How keys and time reach a program. Four instructions look at them; as long as none of these is
executed, two processors that agree on everything else do the same, whatever happens to the keys and
the counters of each.
-/

namespace ChipEight

namespace Processor

variable {τ : Type} {s t : Processor τ} {i : Instruction}

def senses : List Opcode := [.ldVxDt, .skp, .sknp, .ldVxK]

/-- All that a program works on is the same in two processors. Keys, counters and waits do not
count, nor whether the screen was shown. -/
structure Agree (s t : Processor τ) : Prop where
  registers : t.registers = s.registers
  stack : t.stack = s.stack
  memory : t.memory = s.memory
  pixels : t.screen.rows = s.screen.rows
  random : t.random = s.random
  executed : t.executed = s.executed
  unknowns : t.unknowns = s.unknowns
  options : t.options = s.options

lemma Agree.shown_eq (h : Agree s t) (hs : s.wait = none) (ht : t.wait = none) :
    t.shown = s.shown.placed ⟨t.keypad, t.timer, s.stack.capacity, s.options⟩ := by
  have hp : t.screen.markShown = s.screen.markShown := by
    rw [Framebuffer.markShown, h.pixels]
    rfl
  calc t.shown = ⟨t.registers, t.stack, t.memory, t.screen.markShown, t.timer, t.keypad, t.random,
        t.wait, t.executed, t.unknowns, t.options⟩ := rfl
    _ = ⟨s.registers, s.stack, s.memory, s.screen.markShown, t.timer, t.keypad, s.random,
        s.wait, s.executed, s.unknowns, s.options⟩ := by
      rw [h.registers, h.stack, h.memory, hp, h.random, h.executed, h.unknowns, h.options, hs, ht]
    _ = s.shown.placed ⟨t.keypad, t.timer, s.stack.capacity, s.options⟩ := rfl

lemma agree_of_shown {e : Surroundings τ} (h : t.shown = s.shown.placed e)
    (he : (⟨e.capacity, e.options⟩ : Configuration) = s.configuration) :
    Agree s t ∧ t.wait = s.wait := by
  obtain ⟨hc, ho⟩ := Configuration.mk.inj he
  have hs : t.stack = { s.stack with capacity := e.capacity } := congrArg Processor.stack h
  have ho' : t.options = e.options := congrArg Processor.options h
  refine ⟨⟨(congrArg Processor.registers h :), ?_, (congrArg Processor.memory h :),
    (congrArg (·.screen.rows) h :), (congrArg Processor.random h :),
    (congrArg Processor.executed h :), (congrArg Processor.unknowns h :), ho'.trans ho⟩,
    (congrArg Processor.wait h :)⟩
  rw [hs, hc]

lemma Agree.next? (h : Agree s t) : t.next? = s.next? := by
  rw [Processor.next?, Processor.next?, h.memory, h.registers]

lemma wait_cycle (hw : s.wait = none) (hi : ∀ i, s.next? = .ok i → i.opcode ≠ .ldVxK) :
    s.cycle.state.wait = none := by
  cases hc : s.cycle with
  | failed f t => exact wait_of_failed hc
  | done r t =>
    obtain ⟨w, hw', -⟩ | ⟨-, i, u, hn, -, he, ht⟩ := cycle_done_cases hc
    · rw [hw] at hw'
      cases hw'
    · rw [Outcome.state, ht]
      change u.wait = none
      rw [(execute_effect he).wait, if_neg (hi i hn)]
      exact hw

lemma overlooks_of_not_sensing {e : Surroundings τ} {keys keys' : KeySample}
    (he : (⟨e.capacity, e.options⟩ : Configuration) = s.configuration) (hi : i.opcode ∉ senses) :
    s.Overlooks keys e keys' i := by
  obtain ⟨hc, ho⟩ := Configuration.mk.inj he
  rw [Overlooks, hc, ho]
  cases h : i.opcode with
  | ldVxDt | skp | sknp | ldVxK => simp [h, senses] at hi
  | call | shr | shl => exact .inl rfl
  | unknown => rfl
  | _ => exact trivial

lemma cycle_placed_of_not_sensing {e : Surroundings τ} (hw : s.wait = none)
    (he : (⟨e.capacity, e.options⟩ : Configuration) = s.configuration)
    (hi : ∀ i, s.next? = .ok i → i.opcode ∉ senses) :
    ∃ e' : Surroundings τ, (⟨e'.capacity, e'.options⟩ : Configuration) = s.configuration ∧
      (s.placed e).cycle = s.cycle.mapState (·.placed e') := by
  cases hn : s.next? with
  | error f =>
    have hc := cycle_placed_of_error (e := e) hw hn
    exact ⟨{ e with keypad := e.keypad.sample.2 }, he, hc⟩
  | ok i =>
    have hc := cycle_placed hw hn (overlooks_of_not_sensing he (hi i hn))
    exact ⟨⟨e.keypad.sample.2, (s.placed e).timerAfter i, e.capacity, e.options⟩, he, hc⟩

lemma Agree.cycle (h : Agree s t) (hs : s.wait = none) (ht : t.wait = none)
    (hi : ∀ i, s.next? = .ok i → i.opcode ∉ senses) :
    Agree s.cycle.state t.cycle.state ∧ s.cycle.state.wait = none ∧ t.cycle.state.wait = none ∧
      t.cycle.answer = s.cycle.answer := by
  let e : Surroundings τ := ⟨t.keypad, t.timer, s.stack.capacity, s.options⟩
  obtain ⟨e', he', hc⟩ := cycle_placed_of_not_sensing (s := s.shown) (e := e) hs rfl hi
  -- The screens may differ in whether they were shown, so the cycles are compared without that.
  have hm : t.cycle.mapState shown = (s.cycle.mapState shown).mapState (·.placed e') :=
    calc t.cycle.mapState shown = t.shown.cycle.mapState shown := t.cycle_shown.symm
      _ = (s.shown.placed e).cycle.mapState shown := by rw [h.shown_eq hs ht]
      _ = (s.shown.cycle.mapState (·.placed e')).mapState shown := by rw [hc]
      _ = (s.shown.cycle.mapState shown).mapState (·.placed e') := by
        rw [Outcome.mapState_mapState, Outcome.mapState_mapState]
        rfl
      _ = (s.cycle.mapState shown).mapState (·.placed e') := by rw [cycle_shown]
  have hst := congrArg Outcome.state hm
  have han := congrArg Outcome.answer hm
  simp only [Outcome.state_mapState, Outcome.answer_mapState] at hst han
  have hcf : s.cycle.state.configuration = s.configuration := configuration_cycle
  have hec : (⟨e'.capacity, e'.options⟩ : Configuration) = s.configuration := he'
  obtain ⟨ha, hw⟩ := agree_of_shown hst (hec.trans hcf.symm)
  have hws : s.cycle.state.wait = none := wait_cycle hs fun i hn ho => by
    have hq := hi i hn
    simp [senses, ho] at hq
  exact ⟨ha, hws, hw.trans hws, han⟩

variable [TimeScale τ] {gap : ℕ → List (Event τ)} {n : ℕ}

lemma Agree.undergoAll (h : Agree s t) (es es' : List (Event τ)) :
    Agree (s.undergoAll es) (t.undergoAll es') := by
  rw [undergoAll_eq, undergoAll_eq]
  exact ⟨h.registers, h.stack, h.memory, h.pixels, h.random, h.executed, h.unknowns, h.options⟩

lemma Agree.before (h : Agree s t) (gap' : ℕ → List (Event τ)) (hs : s.wait = none)
    (ht : t.wait = none)
    (hi : ∀ j < n, ∀ i, (s.before gap j).next? = .ok i → i.opcode ∉ senses) :
    Agree (s.before gap n) (t.before gap' n) ∧ (s.before gap n).wait = none ∧
      (t.before gap' n).wait = none := by
  induction n with
  | zero => exact ⟨h, hs, ht⟩
  | succ n ih =>
    obtain ⟨ha, hws, hwt⟩ := ih fun j hj => hi j (by omega)
    obtain ⟨ha, hws, hwt, -⟩ := ha.cycle hws hwt (hi n (by omega))
    rw [Processor.before, Processor.before, wait_undergoAll, wait_undergoAll]
    exact ⟨ha.undergoAll _ _, hws, hwt⟩

theorem isolated_run (h : Agree s t) (gap' : ℕ → List (Event τ)) (hs : s.wait = none)
    (ht : t.wait = none)
    (hi : ∀ j < n, ∀ i, (s.before gap j).next? = .ok i → i.opcode ∉ senses) :
    (∀ j ≤ n, Agree (s.before gap j) (t.before gap' j)) ∧
      ∀ j < n, (t.before gap' j).next? = (s.before gap j).next? ∧
        (t.before gap' j).cycle.answer = (s.before gap j).cycle.answer ∧
        Agree (s.before gap j).cycle.state (t.before gap' j).cycle.state := by
  have ha (j : ℕ) (hj : j ≤ n) := h.before gap' hs ht fun l hl => hi l (hl.trans_le hj)
  refine ⟨fun j hj => (ha j hj).1, fun j hj => ?_⟩
  obtain ⟨hb, hws, hwt⟩ := ha j hj.le
  obtain ⟨hc, -, -, han⟩ := hb.cycle hws hwt (hi j hj)
  exact ⟨hb.next?, han, hc⟩

def beeping : Processor ℚ := booted [0x60, 0x05, 0xF0, 0x18]

lemma beeping_cycle : beeping.next? = .ok ⟨0x6005⟩ ∧ beeping.cycle.state.wait = none ∧
    beeping.cycle.state.next? = .ok ⟨0xF018⟩ := by
  have hi : beeping.next? = .ok ⟨0x6005⟩ := next?_booted 0x60 0x05 _
  have ho : Instruction.opcode ⟨0x6005⟩ = .ldVxKk := rfl
  obtain ⟨u, hc, hu⟩ := exists_cycle_effect rfl hi (by rw [fault?, ho])
  rw [hc]
  exact ⟨hi, hu.wait, next?_loaded (k := 2) (hu.memory (by decide)) hu.pc (by decide)⟩

def busy (_ : ℕ) : List (Event ℚ) :=
  [.key (.press 7), .releaseAll, .key (.press 2), .timer (.writeSound 200), .timer (.tick 3)]

theorem beeping_isolated :
    ((beeping.undergo (.key (.press 3))).before busy 1).cycle.answer = .ok (some ⟨0xF018⟩) ∧
      ((beeping.undergo (.key (.press 3))).before busy 2).registers =
        (beeping.before (fun _ => []) 2).registers := by
  obtain ⟨h0, hw, h1⟩ := beeping_cycle
  have ha : Agree beeping (beeping.undergo (.key (.press 3))) :=
    ⟨rfl, rfl, rfl, rfl, rfl, rfl, rfl, rfl⟩
  have hi (j : ℕ) (hj : j < 2) (i : Instruction)
      (hn : (beeping.before (fun _ => []) j).next? = .ok i) : i.opcode ∉ senses := by
    interval_cases j
    · obtain rfl := Except.ok.inj (h0.symm.trans hn)
      decide
    · obtain rfl := Except.ok.inj (h1.symm.trans hn)
      decide
  obtain ⟨hag, hc⟩ := isolated_run ha busy rfl rfl hi
  obtain ⟨-, han, -⟩ := hc 1 (by decide)
  obtain ⟨t, ht⟩ := exists_cycle_done hw h1 rfl
  have hd : (beeping.before (fun _ => []) 1).cycle = .done (some ⟨0xF018⟩) t := ht
  rw [hd] at han
  exact ⟨han, (hag 2 le_rfl).registers⟩

end Processor

end ChipEight
