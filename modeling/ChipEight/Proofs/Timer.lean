import ChipEight.Proofs.Cadence
import ChipEight.Schedule

/-!
What the counters count of the time, in exact arithmetic. A reading may count a sixtieth that is an
epsilon short, and then forgets what was missing: time is never lost, and at most an epsilon is won
at each reading.
-/

namespace ChipEight

lemma TimeScale.larger_eq_max (a b : ℚ) : larger a b = max a b := by
  change (if decide (a < b) then b else a) = max a b
  by_cases h : a < b
  · simp [h, h.le]
  · simp [h, not_lt.mp h]

lemma TimeScale.epsilon_nonneg : (0 : ℚ) ≤ epsilon := by decide +kernel

namespace Timer

def sixtieths (x : ℚ) : ℕ := ⌊x * 60 + TimeScale.epsilon⌋₊

def remainder (x : ℚ) : ℚ := max (x - sixtieths x / 60) 0

variable {t : Timer ℚ} {x elapsed : ℚ} {k n : ℕ}

lemma sixtieths_le (hx : 0 ≤ x) : (sixtieths x : ℚ) ≤ 60 * x + TimeScale.epsilon := by
  have hn : 0 ≤ x * 60 + TimeScale.epsilon := by
    have he := TimeScale.epsilon_nonneg
    positivity
  rw [mul_comm 60]
  exact Nat.floor_le hn

lemma lt_sixtieths (x : ℚ) : 60 * x + TimeScale.epsilon < sixtieths x + 1 := by
  rw [mul_comm 60]
  exact Nat.lt_floor_add_one _

lemma remainder_lt (x : ℚ) : 60 * remainder x + TimeScale.epsilon < 1 := by
  rw [remainder]
  rcases max_cases (x - sixtieths x / 60) 0 with ⟨hm, -⟩ | ⟨hm, -⟩
  · have hl := lt_sixtieths x
    rw [hm]
    linarith
  · rw [hm]
    decide +kernel

lemma le_sixtieths_add (x : ℚ) : 60 * x ≤ sixtieths x + 60 * remainder x := by
  have hm : x - sixtieths x / 60 ≤ remainder x := le_max_left _ _
  linarith

lemma sixtieths_add_le (hx : 0 ≤ x) :
    sixtieths x + 60 * remainder x ≤ 60 * x + TimeScale.epsilon := by
  rw [remainder]
  rcases max_cases (x - sixtieths x / 60) 0 with ⟨hm, -⟩ | ⟨hm, -⟩
  · have he := TimeScale.epsilon_nonneg
    rw [hm]
    linarith
  · have hl := sixtieths_le hx
    rw [hm]
    linarith

lemma steps_zero {τ : Type} (t : Timer τ) : t.steps 0 = t := by
  simp [steps, countDown]

lemma tick_eq (ha : 0 ≤ t.accumulator) (he : 0 < elapsed) (hx : t.accumulator + elapsed = x) :
    t.tick elapsed =
      .done (sixtieths x) ({ t with accumulator := remainder x }.steps (sixtieths x)) := by
  have hp : 0 < x := by linarith
  have hl : TimeScale.le elapsed TimeScale.zero = false := decide_eq_false (not_le.mpr he)
  have hz : 0 ≤ x * 60 + TimeScale.epsilon := by
    have hz := TimeScale.epsilon_nonneg
    positivity
  have ht : TimeScale.truncate (x * frequency + TimeScale.epsilon) = .ok (sixtieths x : ℤ) :=
    TimeScale.truncate_of_nonneg hz
  rw [tick, hl, hx]
  simp only [ht, Bool.false_eq_true, if_false, Nat.cast_eq_zero, Int.toNat_natCast]
  by_cases hn : sixtieths x = 0
  · have hr : remainder x = x := by simp [remainder, hn, hp.le]
    rw [if_pos hn, hn, hr, steps_zero]
  · have hr : TimeScale.larger (x - TimeScale.ofInt (sixtieths x) * period) TimeScale.zero =
        remainder x := by
      rw [TimeScale.larger_eq_max, remainder, div_eq_mul_one_div]
      rfl
    rw [if_neg hn, hr]

structure Follows (t : Timer ℚ) (time : ℚ) (k n : ℕ) : Prop where
  nonneg : 0 ≤ t.accumulator
  short : 60 * t.accumulator + TimeScale.epsilon < 1
  least : 60 * time ≤ n + 60 * t.accumulator
  most : n + 60 * t.accumulator ≤ 60 * time + k * TimeScale.epsilon

lemma follows_stopped : Follows stopped 0 0 0 := by
  constructor <;> decide +kernel

lemma Follows.tick {time : ℚ} (h : t.Follows time k n) (he : 0 ≤ elapsed) :
    ∃ m t', t.tick elapsed = .done m t' ∧ t'.Follows (time + elapsed) (k + 1) (n + m) := by
  obtain ⟨hn, hs, hl, hm⟩ := h
  rcases he.eq_or_lt with rfl | hp
  · have hz : (t.tick 0) = .done 0 t := rfl
    refine ⟨0, t, hz, hn, hs, ?_, ?_⟩
    · simpa using hl
    · have h0 := TimeScale.epsilon_nonneg
      push_cast
      linarith
  · refine ⟨_, _, tick_eq hn hp rfl, le_max_right _ _, remainder_lt _, ?_, ?_⟩
    · have ha := le_sixtieths_add (t.accumulator + elapsed)
      simp only [steps]
      push_cast
      linarith
    · have ha := sixtieths_add_le (x := t.accumulator + elapsed) (by linarith)
      simp only [steps]
      push_cast
      linarith

lemma Follows.bounds {time : ℚ} (h : t.Follows time k n) :
    60 * time - 1 < n ∧ n ≤ 60 * time + k * TimeScale.epsilon ∧
      t.accumulator ∈ Set.Ico 0 (1 / 60 : ℚ) := by
  obtain ⟨hn, hs, hl, hm⟩ := h
  have he := TimeScale.epsilon_nonneg
  refine ⟨by linarith, by linarith, hn, by linarith⟩

end Timer

namespace Schedule

section

variable {τ : Type} [TimeScale τ]

def advances (s : Schedule τ) (t : Timer τ) : List τ → Except NotFinite (List (ℕ × Timer τ))
  | [] => .ok []
  | r :: rs =>
    match s.advance t r with
    | .failed e _ => .error e
    | .done n (s, t) =>
      match advances s t rs with
      | .error e => .error e
      | .ok ps => .ok ((n, t) :: ps)

def total (ps : List (ℕ × Timer τ)) : ℕ := (ps.map Prod.fst).sum

def final (t : Timer τ) (ps : List (ℕ × Timer τ)) : Timer τ := (ps.map Prod.snd).getLastD t

omit [TimeScale τ] in
lemma total_cons (p : ℕ × Timer τ) (ps : List (ℕ × Timer τ)) :
    total (p :: ps) = p.1 + total ps := List.sum_cons

omit [TimeScale τ] in
lemma final_cons (t : Timer τ) (p : ℕ × Timer τ) (ps : List (ℕ × Timer τ)) :
    final t (p :: ps) = final p.2 ps := List.getLastD_cons

lemma countedTo_of_start? {now : τ} {rate : Option ℤ} {frameRate : ℤ} {s : Schedule τ}
    (hs : start? now rate frameRate = .ok s) : s.countedTo = now := by
  simp only [start?, bind, Except.bind, pure, Except.pure] at hs
  grind

end

open Timer

variable {s : Schedule ℚ} {t : Timer ℚ} {start : ℚ} {rs : List ℚ} {k n : ℕ}

lemma advances_follows (h : t.Follows (s.countedTo - start) k n)
    (hr : (s.countedTo :: rs).Pairwise (· ≤ ·)) :
    ∃ ps, s.advances t rs = .ok ps ∧ ps.length = rs.length ∧
      (∀ p ∈ ps, p.2.accumulator ∈ Set.Ico 0 (1 / 60 : ℚ)) ∧
      (final t ps).Follows (rs.getLastD s.countedTo - start) (k + rs.length) (n + total ps) := by
  induction rs generalizing s t k n with
  | nil => exact ⟨[], rfl, rfl, by simp, h⟩
  | cons r rs ih =>
    obtain ⟨hle, hr⟩ := List.pairwise_cons.mp hr
    have he : 0 ≤ r - s.countedTo := sub_nonneg.mpr (hle r List.mem_cons_self)
    obtain ⟨m, t', ht, hf⟩ := h.tick he
    have ha : s.advance t r = .done m ({ s with countedTo := r }, t') := by
      rw [advance, ht]
    rw [sub_add_sub_cancel'] at hf
    obtain ⟨ps, hps, hl, hi, hu⟩ := ih (s := { s with countedTo := r }) hf hr
    refine ⟨(m, t') :: ps, ?_, ?_, ?_, ?_⟩
    · rw [advances, ha]
      dsimp only
      rw [hps]
    · rw [List.length_cons, List.length_cons, hl]
    · intro p hp
      rcases List.mem_cons.mp hp with rfl | hp
      · exact hf.bounds.2.2
      · exact hi p hp
    · have hk : k + (rs.length + 1) = k + 1 + rs.length := by omega
      rw [List.getLastD_cons, List.length_cons, hk, total_cons, final_cons, ← Nat.add_assoc]
      exact hu

lemma advances_stopped {rate : Option ℤ} {frameRate : ℤ}
    (hs : start? start rate frameRate = .ok s) (hr : (start :: rs).Pairwise (· ≤ ·)) :
    ∃ ps, s.advances .stopped rs = .ok ps ∧ ps.length = rs.length ∧
      (∀ p ∈ ps, p.2.accumulator ∈ Set.Ico 0 (1 / 60 : ℚ)) ∧
      (final .stopped ps).Follows (rs.getLastD start - start) rs.length (total ps) := by
  have hc : s.countedTo = start := countedTo_of_start? hs
  subst hc
  have hf : Follows stopped (s.countedTo - s.countedTo) 0 0 := by
    rw [sub_self]
    exact follows_stopped
  simpa only [zero_add] using advances_follows hf hr

/-- However a time is divided among readings that do not go back, the sixtieths counted of it are
all but less than one, and at most an epsilon a reading too many. What is not counted is kept. -/
theorem advances_of_readings {rate : Option ℤ} {frameRate : ℤ}
    (hs : start? start rate frameRate = .ok s) (hr : (start :: rs).Pairwise (· ≤ ·)) :
    ∃ ps, s.advances .stopped rs = .ok ps ∧ ps.length = rs.length ∧
      60 * (rs.getLastD start - start) - 1 < total ps ∧
      total ps ≤ 60 * (rs.getLastD start - start) + rs.length * TimeScale.epsilon ∧
      60 * (rs.getLastD start - start) ≤ total ps + 60 * (final .stopped ps).accumulator ∧
      (∀ p ∈ ps, p.2.accumulator ∈ Set.Ico 0 (1 / 60 : ℚ)) ∧
      ∀ us : List ℚ, (start :: us).Pairwise (· ≤ ·) → us.getLastD start = rs.getLastD start →
        ∃ qs, s.advances .stopped us = .ok qs ∧
          |(total ps - total qs : ℚ)| < 1 + max rs.length us.length * TimeScale.epsilon := by
  obtain ⟨ps, hps, hl, hi, hp⟩ := advances_stopped hs hr
  obtain ⟨hlow, hhigh, -⟩ := hp.bounds
  refine ⟨ps, hps, hl, hlow, hhigh, hp.least, hi, fun us hu he => ?_⟩
  obtain ⟨qs, hqs, -, -, hq⟩ := advances_stopped hs hu
  rw [he] at hq
  obtain ⟨hlow', hhigh', -⟩ := hq.bounds
  have hz := TimeScale.epsilon_nonneg
  have hm : (rs.length : ℚ) * TimeScale.epsilon ≤
      max rs.length us.length * TimeScale.epsilon := by
    gcongr
    exact le_max_left _ _
  have hm' : (us.length : ℚ) * TimeScale.epsilon ≤
      max rs.length us.length * TimeScale.epsilon := by
    gcongr
    exact le_max_right _ _
  refine ⟨qs, hqs, abs_sub_lt_iff.mpr ⟨?_, ?_⟩⟩
  · linarith
  · linarith

/-- The second reading counts a sixtieth that is short of being full by less than an epsilon. -/
theorem advances_of_early_reading :
    ∃ s ps qs, start? (1 / 2 : ℚ) (some 700) 60 = .ok s ∧
      [(1 / 2 : ℚ), 1 / 2, 31 / 60 - 1 / 10 ^ 11, 31 / 60, 3 / 2].Pairwise (· ≤ ·) ∧
      s.advances .stopped [1 / 2, 31 / 60 - 1 / 10 ^ 11, 31 / 60, 3 / 2] = .ok ps ∧
      total ps = 60 ∧ (∀ p ∈ ps, p.2.accumulator ∈ Set.Ico 0 (1 / 60 : ℚ)) ∧
      s.advances .stopped [3 / 2] = .ok qs ∧
      |(total ps - total qs : ℚ)| < 1 + 4 * TimeScale.epsilon := by
  obtain ⟨s, hs⟩ : ∃ s, start? (1 / 2 : ℚ) (some 700) 60 = .ok s := ⟨_, rfl⟩
  have hr : [(1 / 2 : ℚ), 1 / 2, 31 / 60 - 1 / 10 ^ 11, 31 / 60, 3 / 2].Pairwise (· ≤ ·) := by
    norm_num
  obtain ⟨ps, hps, -, hlow, hhigh, -, hi, hu⟩ := advances_of_readings hs hr
  obtain ⟨qs, hqs, hd⟩ := hu [3 / 2] (by norm_num) rfl
  have he : (TimeScale.epsilon : ℚ) = 1 / 1000000000 := rfl
  norm_num [he] at hlow hhigh
  have hn : 59 < total ps ∧ total ps < 61 := by
    constructor
    · exact_mod_cast hlow
    · have hlt : (total ps : ℚ) < 61 := by linarith
      exact_mod_cast hlt
  refine ⟨s, ps, qs, hs, hr, hps, by omega, hi, hqs, ?_⟩
  simpa using hd

end Schedule

end ChipEight
