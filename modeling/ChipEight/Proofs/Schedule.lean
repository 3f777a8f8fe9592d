import ChipEight.Proofs.Timer

/-!
Sleep, in exact arithmetic. A period is due when the time to the next one is down to an epsilon of a
period, and the idle time of a schedule ends when the first of its periods is due.
-/

namespace ChipEight

lemma TimeScale.smaller_eq_min (a b : ℚ) : smaller a b = min a b := by
  change (if decide (b < a) then b else a) = min a b
  by_cases h : b < a
  · simp [h, h.le]
  · simp [h, not_lt.mp h]

namespace Cadence

/-- The periods are those of a positive frequency; the reference may stand anywhere. -/
structure Regular (c : Cadence ℚ) : Prop where
  positive : 0 < c.frequency
  period : c.period = 1 / c.frequency

variable {c : Cadence ℚ} {t u w p : ℚ}

lemma regular_of_ofFrequency? {hz : Frequency ℚ} (h : ofFrequency? hz t = .ok c) : c.Regular := by
  have hf : 0 < hz.value := by
    by_contra hn
    have hp : hz.positive = false := by
      cases hz with
      | whole k => exact decide_eq_false fun hk => hn (Int.cast_pos.mpr hk)
      | measured f => exact congrArg (!·) (decide_eq_true (not_lt.mp hn))
    rw [ofFrequency?.eq_def, hp] at h
    cases h
  rw [ofFrequency?_of_pos hf] at h
  cases h
  exact ⟨hf, rfl⟩

lemma Regular.reset (h : c.Regular) (now : ℚ) : (c.reset now).Regular := ⟨h.positive, h.period⟩

lemma untilNext_eq (c : Cadence ℚ) (now : ℚ) :
    c.untilNext now = max (c.reference + c.period - now) 0 := TimeScale.larger_eq_max _ _

lemma untilNext_nonneg (c : Cadence ℚ) (now : ℚ) : 0 ≤ c.untilNext now := by
  rw [untilNext_eq]
  exact le_max_right _ _

lemma Regular.one_le_periods_iff (h : c.Regular) (t : ℚ) :
    1 ≤ periods c.frequency c.reference t ↔ c.untilNext t ≤ TimeScale.epsilon / c.frequency := by
  have hf := h.positive
  have he : 0 ≤ TimeScale.epsilon / c.frequency := div_nonneg TimeScale.epsilon_nonneg hf.le
  rw [periods, Nat.one_le_floor_iff, untilNext_eq, max_le_iff, and_iff_left he, h.period,
    le_div_iff₀ hf]
  have hm : (c.reference + 1 / c.frequency - t) * c.frequency =
      1 - (t - c.reference) * c.frequency := by
    field_simp
    ring
  rw [hm, sub_le_iff_le_add, add_comm]

lemma Regular.one_le_periods_after (h : c.Regular) (hw : c.untilNext t ≤ w) :
    1 ≤ periods c.frequency c.reference (t + w) := by
  have he : 0 ≤ TimeScale.epsilon / c.frequency :=
    div_nonneg TimeScale.epsilon_nonneg h.positive.le
  rw [untilNext_eq] at hw
  rw [h.one_le_periods_iff, untilNext_eq, max_le_iff]
  refine ⟨?_, he⟩
  have hl := (le_max_left _ _).trans hw
  linarith

lemma Regular.periods_before (h : c.Regular) (hw : 0 < w) (hl : w ≤ c.untilNext t)
    (hp : c.period ≤ p) (hu : u < t + w - TimeScale.epsilon * p) :
    periods c.frequency c.reference u = 0 := by
  rw [untilNext_eq] at hl
  have hr : w ≤ c.reference + c.period - t := (le_max_iff.mp hl).resolve_right (not_le.mpr hw)
  have hm : TimeScale.epsilon * c.period ≤ TimeScale.epsilon * p :=
    mul_le_mul_of_nonneg_left hp TimeScale.epsilon_nonneg
  have hn : ¬ 1 ≤ periods c.frequency c.reference u := by
    rw [h.one_le_periods_iff, untilNext_eq, max_le_iff, div_eq_mul_one_div, ← h.period]
    rintro ⟨hd, -⟩
    linarith
  omega

end Cadence

namespace Schedule

open Cadence (periods)

structure Regular (s : Schedule ℚ) : Prop where
  instructions : ∀ c ∈ s.instructions, c.Regular
  frames : s.frames.Regular

inductive Reachable : Schedule ℚ → Prop
  | start {now rate frameRate s} : start? now rate frameRate = .ok s → Reachable s
  | restart {s} (now) : Reachable s → Reachable (s.restart now)
  | advance {s} (t : Timer ℚ) (now) : Reachable s → Reachable (s.advance t now).state.1
  | instructionsDue {s now n s'} :
    Reachable s → s.instructionsDue now = .ok (n, s') → Reachable s'
  | frameDue {s now due s'} : Reachable s → s.frameDue now = .ok (due, s') → Reachable s'

def DueAt (s : Schedule ℚ) (now : ℚ) : Prop :=
  (∃ s', s.frameDue now = .ok (true, s')) ∨
    s.instructions ≠ none ∧ ∃ n s', s.instructionsDue now = .ok (n, s') ∧ 1 ≤ n

def IdleAt (s : Schedule ℚ) (now : ℚ) : Prop :=
  s.frameDue now = .ok (false, s) ∧
    (s.instructions ≠ none → s.instructionsDue now = .ok (0, s))

def longestPeriod (s : Schedule ℚ) : ℚ :=
  s.instructions.elim s.frames.period fun c => max s.frames.period c.period

variable {s : Schedule ℚ} {c : Cadence ℚ} {t u : ℚ}

lemma frameDue_eq (s : Schedule ℚ) (now : ℚ) :
    s.frameDue now =
      .ok (1 ≤ periods s.frames.frequency s.frames.reference now,
        { s with frames := s.frames.reset (s.frames.reference +
          periods s.frames.frequency s.frames.reference now * s.frames.period) }) := by
  rw [frameDue, Cadence.due_eq]
  rfl

lemma instructionsDue_eq (hc : s.instructions = some c) (now : ℚ) :
    s.instructionsDue now =
      .ok (min (periods c.frequency c.reference now) batchLimit,
        { s with instructions := some (c.reset (c.reference +
          periods c.frequency c.reference now * c.period)) }) := by
  rw [instructionsDue, hc]
  dsimp only
  rw [Cadence.due_eq]
  rfl

lemma frameDue_of_periods (hn : 1 ≤ periods s.frames.frequency s.frames.reference t) :
    ∃ s', s.frameDue t = .ok (true, s') := by
  rw [frameDue_eq, decide_eq_true hn]
  exact ⟨_, rfl⟩

lemma instructionsDue_of_periods (hc : s.instructions = some c)
    (hn : 1 ≤ periods c.frequency c.reference t) :
    ∃ n s', s.instructionsDue t = .ok (n, s') ∧ 1 ≤ n :=
  ⟨_, _, instructionsDue_eq hc t, le_min hn (by decide)⟩

lemma frameDue_of_no_periods (hn : periods s.frames.frequency s.frames.reference t = 0) :
    s.frameDue t = .ok (false, s) := by
  rw [frameDue_eq, hn, Nat.cast_zero, zero_mul, add_zero]
  rfl

lemma instructionsDue_of_no_periods (hc : s.instructions = some c)
    (hn : periods c.frequency c.reference t = 0) : s.instructionsDue t = .ok (0, s) := by
  have hr : c.reset c.reference = c := rfl
  rw [instructionsDue_eq hc, hn, Nat.cast_zero, zero_mul, add_zero, hr, ← hc]
  rfl

lemma cadences_of_start? {now : ℚ} {rate : Option ℤ} {frameRate : ℤ}
    (h : start? now rate frameRate = .ok s) :
    Cadence.ofFrequency? (.whole frameRate) now = .ok s.frames ∧
      ∀ c ∈ s.instructions, ∃ hz, Cadence.ofFrequency? hz now = .ok c := by
  simp only [start?, bind, Except.bind, pure, Except.pure, Functor.map, Except.map] at h
  grind

lemma regular_of_start? {now : ℚ} {rate : Option ℤ} {frameRate : ℤ}
    (h : start? now rate frameRate = .ok s) : s.Regular := by
  obtain ⟨hf, hi⟩ := cadences_of_start? h
  refine ⟨fun c hc => ?_, Cadence.regular_of_ofFrequency? hf⟩
  obtain ⟨hz, hc⟩ := hi c hc
  exact Cadence.regular_of_ofFrequency? hc

lemma Reachable.regular (h : Reachable s) : s.Regular := by
  induction h with
  | start hs => exact regular_of_start? hs
  | restart now _ ih =>
    refine ⟨fun c hc => ?_, ih.frames.reset now⟩
    obtain ⟨c, hc', rfl⟩ := Option.map_eq_some_iff.mp hc
    exact (ih.instructions c hc').reset now
  | @advance s t now _ ih =>
    rw [Schedule.advance]
    cases t.tick (now - s.countedTo) <;> exact ⟨ih.instructions, ih.frames⟩
  | @instructionsDue s now n s' _ hd ih =>
    cases hc : s.instructions with
    | none =>
      rw [Schedule.instructionsDue, hc] at hd
      cases hd
      exact ih
    | some c =>
      rw [instructionsDue_eq hc] at hd
      cases hd
      refine ⟨fun c' hc' => ?_, ih.frames⟩
      cases hc'
      exact (ih.instructions c hc).reset _
  | @frameDue s now due s' _ hd ih =>
    rw [frameDue_eq] at hd
    cases hd
    exact ⟨ih.instructions, ih.frames.reset _⟩

lemma idleTime_of_unlimited (hc : s.instructions = none) (now : ℚ) :
    s.idleTime now = s.frames.untilNext now := by
  rw [idleTime, hc]

lemma idleTime_of_limited (hc : s.instructions = some c) (now : ℚ) :
    s.idleTime now = min (s.frames.untilNext now) (c.untilNext now) := by
  rw [idleTime, hc]
  exact TimeScale.smaller_eq_min _ _

lemma idleTime_nonneg (s : Schedule ℚ) (now : ℚ) : 0 ≤ s.idleTime now := by
  cases hc : s.instructions with
  | none =>
    rw [idleTime_of_unlimited hc]
    exact Cadence.untilNext_nonneg _ _
  | some c =>
    rw [idleTime_of_limited hc]
    exact le_min (Cadence.untilNext_nonneg _ _) (Cadence.untilNext_nonneg _ _)

lemma Regular.dueAt_after (h : s.Regular) (t : ℚ) : s.DueAt (t + s.idleTime t) := by
  cases hc : s.instructions with
  | none =>
    rw [idleTime_of_unlimited hc]
    exact .inl (frameDue_of_periods (h.frames.one_le_periods_after le_rfl))
  | some c =>
    rw [idleTime_of_limited hc]
    -- the cadence that comes first is the one that is due
    rcases min_choice (s.frames.untilNext t) (c.untilNext t) with hm | hm
    · rw [hm]
      exact .inl (frameDue_of_periods (h.frames.one_le_periods_after le_rfl))
    · rw [hm]
      have hn := (h.instructions c hc).one_le_periods_after (t := t) le_rfl
      exact .inr ⟨by simp [hc], instructionsDue_of_periods hc hn⟩

lemma Regular.idleAt_before (h : s.Regular) (hw : 0 < s.idleTime t)
    (hu : u < t + s.idleTime t - TimeScale.epsilon * s.longestPeriod) : s.IdleAt u := by
  cases hc : s.instructions with
  | none =>
    have hp : s.longestPeriod = s.frames.period := by rw [longestPeriod, hc, Option.elim_none]
    rw [idleTime_of_unlimited hc] at hw hu
    rw [hp] at hu
    have hn := h.frames.periods_before hw le_rfl le_rfl hu
    exact ⟨frameDue_of_no_periods hn, fun hi => absurd hc hi⟩
  | some c =>
    have hp : s.longestPeriod = max s.frames.period c.period := by
      rw [longestPeriod, hc, Option.elim_some]
    rw [idleTime_of_limited hc] at hw hu
    rw [hp] at hu
    have hf := h.frames.periods_before hw (min_le_left _ _) (le_max_left _ _) hu
    have hi := (h.instructions c hc).periods_before hw (min_le_right _ _) (le_max_right _ _) hu
    exact ⟨frameDue_of_no_periods hf, fun _ => instructionsDue_of_no_periods hc hi⟩

/-- A sleep of the idle time ends when something is due, and until an epsilon of the longest period
before that nothing is. -/
theorem idleTime_exact :
    (∀ c : Cadence ℚ, c.Regular → ∀ t, ∃ n c', c.due t = .ok (n, c') ∧
      (1 ≤ n ↔ c.untilNext t ≤ TimeScale.epsilon / c.frequency)) ∧
    (∀ s, Reachable s → s.Regular) ∧
    ∀ s : Schedule ℚ, s.Regular → ∀ t,
      0 ≤ s.idleTime t ∧ s.DueAt (t + s.idleTime t) ∧
        (0 < s.idleTime t →
          ∀ u < t + s.idleTime t - TimeScale.epsilon * s.longestPeriod, s.IdleAt u) :=
  ⟨fun c hc t => ⟨_, _, c.due_eq t, hc.one_le_periods_iff t⟩, fun _ => Reachable.regular,
    fun s hs t =>
      ⟨s.idleTime_nonneg t, hs.dueAt_after t, fun hw _ hu => hs.idleAt_before hw hu⟩⟩

def granting : Schedule ℚ := ⟨1 / 2, some ⟨700, 1 / 700, 51 / 100⟩, ⟨60, 1 / 60, 1 / 2⟩⟩

theorem granting_idle :
    Reachable granting ∧ granting.idleTime (511 / 1000) = 3 / 7000 ∧
      granting.DueAt (511 / 1000 + 3 / 7000) ∧ granting.IdleAt (511 / 1000 + 2 / 7000) := by
  have hs : start? (1 / 2 : ℚ) (some 700) 60 =
      .ok ⟨1 / 2, some ⟨700, 1 / 700, 1 / 2⟩, ⟨60, 1 / 60, 1 / 2⟩⟩ := rfl
  have hn : periods 700 (1 / 2) (51 / 100) = 7 := by decide +kernel
  have hm : (1 / 2 : ℚ) + (7 : ℕ) * (1 / 700) = 51 / 100 := by norm_num
  have hg : Schedule.instructionsDue ⟨1 / 2, some ⟨700, 1 / 700, 1 / 2⟩, ⟨60, 1 / 60, 1 / 2⟩⟩
      (51 / 100 : ℚ) = .ok (7, granting) := by
    rw [instructionsDue_eq rfl, hn, hm]
    rfl
  have hr : Reachable granting := .instructionsDue (.start hs) hg
  have hw : granting.idleTime (511 / 1000) = 3 / 7000 := by decide +kernel
  obtain ⟨-, hregular, hidle⟩ := idleTime_exact
  obtain ⟨-, hd, hi⟩ := hidle granting (hregular granting hr) (511 / 1000)
  rw [hw] at hd hi
  exact ⟨hr, hw, hd, hi (by decide +kernel) _ (by decide +kernel)⟩

end Schedule

end ChipEight
