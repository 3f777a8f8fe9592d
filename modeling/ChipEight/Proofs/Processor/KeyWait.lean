import ChipEight.Proofs.Keypad
import ChipEight.Proofs.Processor.Invariant

/-!
The wait for a key. It ends with the first sample in which some key is pressed that was not in the
sample before; until then nothing but the keys and the counters moves.
-/

namespace ChipEight

open Keypad

namespace KeyWait

variable {w : KeyWait} {keys : KeySample} {k : Digit}

lemma answer?_eq_none_iff : w.answer? keys = none ↔ newKeys w.previous keys = ∅ := by
  rw [answer?, List.find?_eq_none, Set.eq_empty_iff_forall_notMem]
  simp [newKeys]

lemma answer?_eq_some_iff : w.answer? keys = some k ↔ IsLeast (newKeys w.previous keys) k := by
  have hs (j : Digit) : j ∈ newKeys w.previous keys ↔ (keys.get j && !w.previous.get j) = true := by
    simp [newKeys]
  rw [answer?, List.find?_eq_some_iff_getElem, IsLeast, mem_lowerBounds, hs]
  simp only [List.length_finRange, List.getElem_finRange, Fin.cast_mk]
  constructor
  · rintro ⟨hk, n, hn, rfl, hl⟩
    refine ⟨hk, fun j hj => ?_⟩
    by_contra hlt
    have hj' := hl j (not_le.mp hlt)
    rw [(hs j).mp hj] at hj'
    cases hj'
  · rintro ⟨hk, hl⟩
    refine ⟨hk, k, k.isLt, rfl, fun j hj => ?_⟩
    rw [Bool.not_eq_true', Bool.eq_false_iff, ne_eq, ← hs]
    intro hm
    have hle := hl _ hm
    rw [Fin.le_def] at hle
    dsimp only at hle
    omega

end KeyWait

namespace Processor

variable {τ : Type} {s : Processor τ} {w : KeyWait} {i : Instruction} {k : Digit}

lemma cycle_quiet (hw : s.wait = some w) (hk : newKeys w.previous s.keys = ∅) :
    s.cycle = .done none { s.sampled with wait := some { w with previous := s.keys } } := by
  rw [cycle_of_wait hw, poll_of_none (KeyWait.answer?_eq_none_iff.mpr hk)]

lemma cycle_answered (hw : s.wait = some w) (hk : IsLeast (newKeys w.previous s.keys) k) :
    s.cycle = .done (some w.instruction)
      { s.sampled with
        registers := (s.registers.set w.register (.ofNat k)).advance 1
        wait := none
        executed := s.executed + 1 } := by
  rw [cycle_of_wait hw, poll_of_some (KeyWait.answer?_eq_some_iff.mpr hk)]
  rfl

def suspended (s : Processor τ) (i : Instruction) (keys : KeySample) (keypad : Keypad)
    (timer : Timer τ) : Processor τ :=
  { s with keypad, timer, wait := some ⟨i.x, i, keys⟩, executed := s.executed + 1 }

variable {keys : KeySample} {keypad : Keypad} {timer : Timer τ}

@[simp] lemma keys_suspended : (s.suspended i keys keypad timer).keys = keypad.sample.1 := rfl

@[simp] lemma keypad_suspended_sampled :
    (s.suspended i keys keypad timer).sampled.keypad = keypad.sample.2 := rfl

@[simp] lemma timer_suspended : (s.suspended i keys keypad timer).timer = timer := rfl

lemma suspended_memory (m : Memory) :
    { s.suspended i keys keypad timer with memory := m } =
      { s with memory := m }.suspended i keys keypad timer := rfl

lemma suspended_quiet (h : newKeys keys keypad.sample.1 = ∅) :
    (s.suspended i keys keypad timer).cycle =
      .done none (s.suspended i keypad.sample.1 keypad.sample.2 timer) := by
  have hw : (s.suspended i keys keypad timer).wait = some ⟨i.x, i, keys⟩ := rfl
  rw [cycle_quiet hw h]
  rfl

lemma suspended_answered (hw : s.wait = none) (hk : IsLeast (newKeys keys keypad.sample.1) k) :
    (s.suspended i keys keypad timer).cycle = .done (some i)
      { s with
        registers := { s.registers.set i.x (.ofNat k) with pc := s.registers.pc + 2 }
        keypad := keypad.sample.2
        timer
        executed := s.executed + 2 } := by
  have hs : (s.suspended i keys keypad timer).wait = some ⟨i.x, i, keys⟩ := rfl
  rw [cycle_answered hs hk, Registers.advance_eq, ← hw]
  rfl

variable [TimeScale τ]

/-- The state before the cycle numbered `n` of a run, when `gap n` happens behind that cycle. -/
def before (s : Processor τ) (gap : ℕ → List (Event τ)) : ℕ → Processor τ
  | 0 => s
  | n + 1 => (before s gap n).cycle.state.undergoAll (gap n)

variable {gap : ℕ → List (Event τ)} {n : ℕ}

lemma keypad_before :
    (s.before gap (n + 1)).keypad =
      (gap n).foldl Event.onKeypad (s.before gap n).sampled.keypad := by
  rw [before, undergoAll_eq, keypad_cycle]

lemma mem_newKeys_before (es : List KeyEvent) (h : gap n = es.map .key) :
    k ∈ newKeys (s.before gap n).keys (s.before gap (n + 1)).keys ↔
      (s.before gap n).keys.get k = false ∧ .press k ∈ es := by
  have hp : (s.before gap (n + 1)).keypad =
      es.foldl Keypad.apply (s.before gap n).keypad.sample.2 := by
    rw [keypad_before, h, List.foldl_map]
    rfl
  rw [keys, keys, hp, covers_sample.newKeys_eq, freshPresses, Set.mem_ofPred_eq, latched_sample]
  simp

lemma before_suspended (hw : s.wait = none) (hi : s.next? = .ok i) (ho : i.opcode = .ldVxK)
    (hq : ∀ j < n, newKeys (s.before gap j).keys (s.before gap (j + 1)).keys = ∅) :
    ∃ keypad timer,
      s.before gap (n + 1) = s.suspended i (s.before gap n).keys keypad timer := by
  induction n with
  | zero =>
    change ∃ keypad timer, s.cycle.state.undergoAll (gap 0) = s.suspended i s.keys keypad timer
    rw [cycle_of_ldVxK hw hi ho, undergoAll_eq]
    exact ⟨_, _, rfl⟩
  | succ n ih =>
    obtain ⟨keypad, timer, h⟩ := ih fun j hj => hq j (by omega)
    have hn := hq n (by omega)
    rw [before, undergoAll_eq]
    rw [h, keys_suspended] at hn
    rw [h, keys_suspended, suspended_quiet hn]
    exact ⟨_, _, rfl⟩

lemma exists_isLeast_newKeys {a b : KeySample} (h : (newKeys a b).Nonempty) :
    ∃ k, IsLeast (newKeys a b) k := by
  obtain ⟨k, hk, hl⟩ := wellFounded_lt.has_min _ h
  exact ⟨k, hk, fun j hj => not_lt.mp (hl j hj)⟩

theorem key_wait_run (hw : s.wait = none) (hi : s.next? = .ok i) (ho : i.opcode = .ldVxK)
    (hq : ∀ j < n, newKeys (s.before gap j).keys (s.before gap (j + 1)).keys = ∅) :
    (∃ t, s.cycle = .done (some i) t) ∧
      (∀ j ≤ n, s.before gap (j + 1) =
        s.suspended i (s.before gap j).keys (s.before gap (j + 1)).keypad
          (s.before gap (j + 1)).timer) ∧
      (∀ j < n, ∀ m : Memory, { s.before gap (j + 1) with memory := m }.cycle =
        .done none { s.suspended i (s.before gap (j + 1)).keys (s.before gap (j + 1)).sampled.keypad
          (s.before gap (j + 1)).timer with memory := m }) ∧
      ((newKeys (s.before gap n).keys (s.before gap (n + 1)).keys).Nonempty →
        ∃ k, IsLeast (newKeys (s.before gap n).keys (s.before gap (n + 1)).keys) k ∧
          (s.before gap (n + 1)).cycle = .done (some i)
            { s with
              registers := { s.registers.set i.x (.ofNat k) with pc := s.registers.pc + 2 }
              keypad := (s.before gap (n + 1)).sampled.keypad
              timer := (s.before gap (n + 1)).timer
              executed := s.executed + 2 } ∧
          (s.registers.pc + 2).toNat = s.registers.pc.toNat + 2) := by
  have hb (j : ℕ) (hj : j ≤ n) : ∃ keypad timer,
      s.before gap (j + 1) = s.suspended i (s.before gap j).keys keypad timer :=
    before_suspended hw hi ho fun l hl => hq l (by omega)
  refine ⟨⟨_, cycle_of_ldVxK hw hi ho⟩, ?_, ?_, ?_⟩
  · intro j hj
    obtain ⟨keypad, timer, h⟩ := hb j hj
    rw [h]
    rfl
  · intro j hj m
    obtain ⟨keypad, timer, h⟩ := hb j (by omega)
    have hn := hq j hj
    rw [h, keys_suspended] at hn
    rw [h, keys_suspended, keypad_suspended_sampled, timer_suspended]
    rw [suspended_memory, suspended_memory, suspended_quiet hn]
  · intro hk
    obtain ⟨k, hk⟩ := exists_isLeast_newKeys hk
    obtain ⟨keypad, timer, h⟩ := hb n le_rfl
    refine ⟨k, hk, ?_, ?_⟩
    · rw [h, keys_suspended] at hk
      rw [h, keypad_suspended_sampled, timer_suspended]
      exact suspended_answered hw hk
    · rw [← pc_behind hi, Registers.pc_advance]
      rfl

def tap : ℕ → List (Event ℚ)
  | 1 => [.key (.press 7)]
  | _ => []

lemma newKeys_tap_zero : newKeys (asking.before tap 0).keys (asking.before tap 1).keys = ∅ := by
  rw [Set.eq_empty_iff_forall_notMem]
  intro k hk
  have h := (mem_newKeys_before [] rfl).mp hk
  cases h.2

lemma newKeys_tap_one : newKeys (asking.before tap 1).keys (asking.before tap 2).keys = {7} := by
  ext k
  rw [Set.mem_singleton_iff, mem_newKeys_before (n := 1) [.press 7] rfl]
  constructor
  · rintro ⟨-, hk⟩
    rw [List.mem_singleton, KeyEvent.press.injEq] at hk
    exact Fin.ext (Int.ofNat_inj.mp hk)
  · rintro rfl
    have ha : asking.keys.get 7 = false := Keypad.get_sample .released 7
    have hn : newKeys asking.keys (asking.before tap 1).keys = ∅ := newKeys_tap_zero
    cases hb : (asking.before tap 1).keys.get 7 with
    | false => exact ⟨rfl, List.mem_singleton_self _⟩
    | true =>
      have hk : 7 ∈ newKeys asking.keys (asking.before tap 1).keys := ⟨hb, ha⟩
      rw [hn] at hk
      cases hk

theorem asking_answered :
    ∃ t, (asking.before tap 2).cycle = .done (some ⟨0xF20A⟩) t ∧ t.wait = none ∧
      t.registers.get 2 = 7 ∧ t.registers.pc = 0x202 := by
  have hi : asking.next? = .ok ⟨0xF20A⟩ := next?_booted 0xF2 0x0A []
  have hq (j : ℕ) (hj : j < 1) :
      newKeys (asking.before tap j).keys (asking.before tap (j + 1)).keys = ∅ := by
    rw [Nat.lt_one_iff.mp hj]
    exact newKeys_tap_zero
  obtain ⟨-, -, -, h⟩ := key_wait_run rfl hi rfl hq
  have hn : (newKeys (asking.before tap 1).keys (asking.before tap 2).keys).Nonempty := by
    rw [newKeys_tap_one]
    exact Set.singleton_nonempty 7
  obtain ⟨k, hk, hc, -⟩ := h hn
  rw [newKeys_tap_one] at hk
  have h7 : k = 7 := hk.1
  subst h7
  exact ⟨_, hc, rfl, rfl, rfl⟩

end Processor

end ChipEight
