import ChipEight.Proofs.Processor.KeyWait

/-!
Which presses end the wait for a key. The wait compares samples: a press counts if its key is not in
the last sample, whatever else happens to the key before the next one.
-/

namespace ChipEight.Processor

open Keypad

variable {τ : Type} [TimeScale τ] {s : Processor τ} {w : KeyWait}

lemma undergoAll_keys (es : List KeyEvent) :
    s.undergoAll (es.map .key) = { s with keypad := es.foldl Keypad.apply s.keypad } := by
  induction es generalizing s with
  | nil => rfl
  | cons e es ih => exact ih (s := s.undergo (.key e))

omit [TimeScale τ] in
lemma previous_of_poll {v : KeyWait} {keys : KeySample} (h : (s.poll v keys).2.wait = some w) :
    w.previous = keys := by
  cases hk : v.answer? keys with
  | none =>
    rw [poll_of_none hk] at h
    cases h
    rfl
  | some k =>
    rw [poll_of_some hk] at h
    cases h

omit [TimeScale τ] in
lemma previous_cycle (h : s.cycle.state.wait = some w) : w.previous = s.keys := by
  cases hc : s.cycle with
  | failed f t =>
    rw [hc, Outcome.state, wait_of_failed hc] at h
    cases h
  | done r t =>
    rw [hc, Outcome.state] at h
    obtain ⟨v, -, -, ht⟩ | ⟨hn, i, u, -, -, he, ht⟩ := cycle_done_cases hc
    · rw [ht] at h
      exact previous_of_poll h
    · rw [ht, (execute_effect he).wait] at h
      split at h
      · cases h
        rfl
      · exact absurd (hn.symm.trans h) (by simp)

lemma Reachable.covers (h : Reachable s) (hw : s.wait = some w) : Covers w.previous s.keypad := by
  induction h with
  | start memory hs =>
    obtain ⟨stack, source, -, rfl⟩ := start?_eq_ok hs
    cases hw
  | @act t a _ ih =>
    cases a with
    | cycle =>
      rw [Processor.act, keypad_cycle, previous_cycle hw]
      exact covers_sample
    | event e =>
      have hp := ih hw
      cases e with
      | key e => exact hp.apply e
      | releaseAll => exact covers_releaseAll t.keypad
      | timer e => exact hp

lemma waiting_newKeys (h : Reachable s) (hw : s.wait = some w) (es : List KeyEvent) :
    newKeys w.previous (s.undergoAll (es.map .key)).keys = freshPresses w.previous s.keypad es := by
  rw [undergoAll_keys]
  exact (h.covers hw).newKeys_eq es

theorem wait_ends_iff (h : Reachable s) (hw : s.wait = some w) (es : List KeyEvent) :
    ((s.undergoAll (es.map .key)).cycle.state.wait = none ↔
        (freshPresses w.previous s.keypad es).Nonempty) ∧
      ((freshPresses w.previous s.keypad es).Nonempty →
        ∃ k, IsLeast (freshPresses w.previous s.keypad es) k ∧
          (s.undergoAll (es.map .key)).cycle = .done (some w.instruction)
            { s with
              registers := { s.registers.set w.register (.ofNat k) with pc := s.registers.pc + 2 }
              keypad := (es.foldl Keypad.apply s.keypad).sample.2
              wait := none
              executed := s.executed + 1 } ∧
          (s.registers.pc + 2).toNat = s.registers.pc.toNat + 2) := by
  have hk := waiting_newKeys h hw es
  have hu : (s.undergoAll (es.map .key)).wait = some w := (wait_undergoAll s _).trans hw
  rcases Set.eq_empty_or_nonempty (freshPresses w.previous s.keypad es) with hf | hf
  · rw [cycle_quiet hu (hk.trans hf), hf]
    simp [Outcome.state]
  · rw [← hk] at hf ⊢
    obtain ⟨k, hl⟩ := exists_isLeast_newKeys hf
    have hc := cycle_answered hu hl
    obtain ⟨-, -, hi⟩ := h.wellFormed.wait w hw
    refine ⟨⟨fun _ => hf, fun _ => ?_⟩, fun _ => ⟨k, hl, ?_, ?_⟩⟩
    · rw [hc]
      rfl
    · rw [hc, Registers.advance_eq, undergoAll_keys]
      rfl
    · rw [← pc_behind hi, Registers.pc_advance]
      rfl

def holding : Processor ℚ := asking.undergo (.key (.press 2))

lemma holding_cycle : holding.cycle.state =
    { holding.sampled with wait := some ⟨2, ⟨0xF20A⟩, holding.keys⟩, executed := 1 } := by
  have hi : holding.next? = .ok ⟨0xF20A⟩ := by
    rw [holding, next?_undergo]
    exact next?_booted 0xF2 0x0A []
  rw [cycle_of_ldVxK rfl hi rfl]
  rfl

lemma holding_reachable : Reachable holding.cycle.state :=
  ((booted_reachable [0xF2, 0x0A]).act (.event (.key (.press 2)))).act .cycle

lemma holding_wait : holding.cycle.state.wait = some ⟨2, ⟨0xF20A⟩, holding.keys⟩ := by
  rw [holding_cycle]

lemma holding_fresh {es : List KeyEvent} {k : Digit} :
    k ∈ freshPresses holding.keys holding.cycle.state.keypad es ↔ k ≠ 2 ∧ .press k ∈ es := by
  have hl : holding.cycle.state.keypad.latched.get k = false := by
    rw [keypad_cycle]
    exact latched_sample _ k
  have hk : holding.keys.get k = true ↔ k = 2 := by
    have hn : (Vector.replicate 16 false).get k = false := get_none k
    change (Keypad.released.press (2 : Digit)).sample.1.get k = true ↔ k = 2
    rw [get_sample, Bool.or_eq_true, held_press, latched_press, Int.natCast_inj, Fin.val_inj]
    simp only [Keypad.released, hn, Bool.false_eq_true, or_false, or_self, eq_comm]
  rw [freshPresses, Set.mem_ofPred_eq, hl, Bool.eq_false_iff, ne_eq, hk]
  simp

theorem other_press_seen :
    ∃ t, (holding.cycle.state.undergoAll
        [.key (.release 2), .key (.press 2), .key (.press 5)]).cycle = .done (some ⟨0xF20A⟩) t ∧
      t.wait = none ∧ t.registers.get 2 = 5 ∧ t.registers.pc = 0x202 := by
  have hw := wait_ends_iff holding_reachable holding_wait [.release 2, .press 2, .press 5]
  have h5 : 5 ∈ freshPresses holding.keys holding.cycle.state.keypad
      [.release 2, .press 2, .press 5] :=
    holding_fresh.mpr ⟨by decide, by simp⟩
  obtain ⟨k, hk, hc, -⟩ := hw.2 ⟨5, h5⟩
  obtain ⟨h2, hp⟩ := holding_fresh.mp hk.1
  simp only [List.mem_cons, KeyEvent.press.injEq, reduceCtorEq, List.not_mem_nil, or_false,
    false_or] at hp
  have hk5 : k = 5 := by
    rcases hp with hp | hp
    · exact (h2 (Fin.ext (Int.ofNat_inj.mp hp))).elim
    · exact Fin.ext (Int.ofNat_inj.mp hp)
  subst hk5
  have hr : holding.cycle.state.registers = Registers.initial := by
    rw [holding_cycle]
    rfl
  refine ⟨_, hc, rfl, ?_, ?_⟩ <;>
  · dsimp only
    rw [hr]
    rfl

theorem repress_unseen :
    Reachable holding.cycle.state ∧ holding.cycle.state.wait.isSome = true ∧
      (holding.cycle.state.undergo (.key (.release 2))).keypad.isPressed 2 = false ∧
      ∃ t, (holding.cycle.state.undergoAll [.key (.release 2), .key (.press 2)]).cycle =
        .done none t ∧ t.wait.isSome = true := by
  have hk : freshPresses holding.keys holding.cycle.state.keypad [.release 2, .press 2] = ∅ := by
    rw [Set.eq_empty_iff_forall_notMem]
    intro k hk
    obtain ⟨h2, hp⟩ := holding_fresh.mp hk
    simp only [List.mem_cons, KeyEvent.press.injEq, reduceCtorEq, List.not_mem_nil, or_false,
      false_or] at hp
    exact h2 (Fin.ext (Int.ofNat_inj.mp hp))
  have hu := waiting_newKeys holding_reachable holding_wait [.release 2, .press 2]
  have hw := (wait_undergoAll _ ([.release 2, .press 2].map .key)).trans holding_wait
  have hc := cycle_quiet hw (hu.trans hk)
  refine ⟨holding_reachable, ?_, ?_, _, hc, rfl⟩
  · rw [holding_wait]
    rfl
  · change (holding.cycle.state.keypad.release (2 : Digit)).isPressed (2 : Digit) = false
    rw [isPressed_digit, Bool.eq_false_iff, ne_eq, held_release]
    simp

end ChipEight.Processor
