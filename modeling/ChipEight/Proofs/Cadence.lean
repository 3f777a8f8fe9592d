import ChipEight.Cadence
import Mathlib.Tactic
import Mathlib.Data.List.Fold
import Mathlib.Data.List.MinMax
import Mathlib.Data.Rat.Floor

/-!
What a cadence counts in exact arithmetic. However often it is asked, and in whatever order the
clock reads, it has counted the full periods up to the latest reading, and each of them once.
-/

namespace ChipEight

lemma TimeScale.truncate_of_nonneg {x : ℚ} (hx : 0 ≤ x) : truncate x = .ok (⌊x⌋₊ : ℤ) := by
  change Except.ok (x.num.tdiv x.den) = _
  rw [Int.tdiv_eq_ediv_of_nonneg (Rat.num_nonneg.mpr hx), ← Rat.floor_def',
    Int.natCast_floor_eq_floor hx]

lemma TimeScale.exists_truncate (x : ℚ) : ∃ k, truncate x = .ok k ∧ k.toNat = ⌊x⌋₊ := by
  rcases le_or_gt 0 x with hx | hx
  · exact ⟨_, truncate_of_nonneg hx, Int.toNat_natCast _⟩
  · refine ⟨x.num.tdiv x.den, rfl, ?_⟩
    have hn : 0 ≤ (-x.num).tdiv x.den :=
      Int.tdiv_nonneg (neg_nonneg.mpr (Rat.num_neg.mpr hx).le) (Int.natCast_nonneg _)
    rw [Int.neg_tdiv] at hn
    rw [Int.toNat_of_nonpos (by omega), Nat.floor_of_nonpos hx.le]

namespace Cadence

section

variable {τ : Type} [TimeScale τ]

def counts (c : Cadence τ) : List τ → Except NotFinite (List ℕ × Cadence τ)
  | [] => .ok ([], c)
  | t :: ts =>
    match c.due t with
    | .error e => .error e
    | .ok (n, c) =>
      match counts c ts with
      | .error e => .error e
      | .ok (ns, c) => .ok (n :: ns, c)

end

def periods (f start t : ℚ) : ℕ := ⌊(t - start) * f + TimeScale.epsilon⌋₊

def counted (f start : ℚ) (n : ℕ) : Cadence ℚ := ⟨f, 1 / f, start + n / f⟩

lemma due_eq (c : Cadence ℚ) (now : ℚ) :
    c.due now = .ok (periods c.frequency c.reference now,
      { c with reference :=
          c.reference + periods c.frequency c.reference now * c.period }) := by
  obtain ⟨k, hk, hn⟩ :=
    TimeScale.exists_truncate ((now - c.reference) * c.frequency + TimeScale.epsilon)
  rw [periods, ← hn, due]
  split
  · rename_i e he
    cases hk.symm.trans he
  · rename_i j hj
    obtain rfl : k = j := Except.ok.inj (hk.symm.trans hj)
    split
    · rename_i hz
      rw [Int.toNat_of_nonpos hz, Nat.cast_zero, zero_mul, add_zero]
    · rename_i hz
      have hc : ((k.toNat : ℕ) : ℚ) = k := by exact_mod_cast Int.toNat_of_nonneg (by omega)
      rw [hc]
      rfl

/-- The full periods up to the latest of some readings. -/
def periodsTo (f start : ℚ) (ts : List ℚ) : ℕ := (ts.map (periods f start)).foldl max 0

variable {f start t u : ℚ} {n : ℕ} {ts : List ℚ}

lemma counted_zero : counted f start 0 = ⟨f, 1 / f, start⟩ := by simp [counted]

lemma periods_mono (hf : 0 < f) (ht : t ≤ u) : periods f start t ≤ periods f start u := by
  rw [periods, periods]
  gcongr

lemma periodsTo_append (t : ℚ) :
    periodsTo f start (ts ++ [t]) = max (periodsTo f start ts) (periods f start t) := by
  rw [periodsTo, List.map_append, List.foldl_append]
  rfl

lemma periods_le_periodsTo (ht : t ∈ ts) : periods f start t ≤ periodsTo f start ts := by
  rw [periodsTo, List.foldl_eq_foldr]
  exact List.le_max_of_le (List.mem_map_of_mem ht) le_rfl

lemma periodsTo_le (hf : 0 < f) (hu : ∀ t ∈ ts, t ≤ u) :
    periodsTo f start ts ≤ periods f start u := by
  rw [periodsTo, List.foldl_eq_foldr]
  apply List.max_le_of_forall_le
  intro n hn
  obtain ⟨t, ht, rfl⟩ := List.mem_map.mp hn
  exact periods_mono hf (hu t ht)

lemma periods_counted (hf : 0 < f) :
    periods f (start + n / f) t = periods f start t - n := by
  have hx : (t - (start + n / f)) * f + TimeScale.epsilon =
      (t - start) * f + TimeScale.epsilon - n := by
    field_simp
    ring
  rw [periods, periods, hx, Nat.floor_sub_natCast]

lemma due_counted (hf : 0 < f) :
    (counted f start n).due t =
      .ok (periods f start t - n, counted f start (max n (periods f start t))) := by
  have hm : max n (periods f start t) = n + (periods f start t - n) := by omega
  have hr : start + n / f + (periods f start t - n : ℕ) * (1 / f) =
      start + (n + (periods f start t - n) : ℕ) / f := by
    rw [Nat.cast_add]
    ring
  rw [due_eq, counted, periods_counted hf, hr, hm, counted]

lemma counts_counted (hf : 0 < f) (n : ℕ) (ts : List ℚ) :
    ∃ ns, (counted f start n).counts ts = .ok (ns, counted f start (n + ns.sum)) ∧
      n + ns.sum = (ts.map (periods f start)).foldl max n := by
  induction ts generalizing n with
  | nil => exact ⟨[], rfl, rfl⟩
  | cons t ts ih =>
    obtain ⟨ns, hc, hs⟩ := ih (max n (periods f start t))
    have hn : n + ((periods f start t - n) :: ns).sum = max n (periods f start t) + ns.sum := by
      rw [List.sum_cons]
      omega
    refine ⟨(periods f start t - n) :: ns, ?_, ?_⟩
    · rw [counts, due_counted hf]
      dsimp only
      rw [hc, hn]
    · rw [hn, hs]
      rfl

lemma ofFrequency?_of_pos {hz : Frequency ℚ} (hf : 0 < hz.value) (start : ℚ) :
    ofFrequency? hz start = .ok (counted hz.value start 0) := by
  rw [counted_zero]
  cases hz with
  | whole n =>
    have hp : (Frequency.whole n : Frequency ℚ).positive = true :=
      decide_eq_true (Int.cast_pos.mp hf)
    rw [ofFrequency?, hp]
    rfl
  | measured f =>
    have hp : (Frequency.measured f).positive = true := by
      have hn : ¬ f ≤ 0 := not_le.mpr hf
      change (!decide (f ≤ 0)) = true
      rw [decide_eq_false hn, Bool.not_false]
    rw [ofFrequency?, hp]
    rfl

/-- The counts of any queries add up to the full periods from the start to the latest of them, and
the reference has moved on by just these. -/
theorem counts_of_queries {hz : Frequency ℚ} (hf : 0 < hz.value) (start : ℚ) (ts : List ℚ) :
    ∃ c ns, ofFrequency? hz start = .ok c ∧
      c.counts ts = .ok (ns, { c with reference := start + ns.sum * c.period }) ∧
      ns.sum = (ts.map fun t => ⌊(t - start) * hz.value + TimeScale.epsilon⌋₊).foldl max 0 := by
  obtain ⟨ns, hc, hs⟩ : ∃ ns, (counted hz.value start 0).counts ts = _ ∧ _ :=
    counts_counted hf 0 ts
  rw [zero_add] at hc hs
  refine ⟨_, ns, ofFrequency?_of_pos hf start, ?_, hs⟩
  rw [hc, counted, counted, ← div_eq_mul_one_div]

theorem counts_of_backward_clock :
    0 < (Frequency.whole 60 : Frequency ℚ).value ∧
      ∃ c ns c', ofFrequency? (.whole 60 : Frequency ℚ) (1 / 2) = .ok c ∧
        c.counts [3 / 5, 11 / 20, 611 / 600, 0, 23 / 40] = .ok (ns, c') ∧ ns.sum = 31 := by
  have hf : 0 < (Frequency.whole 60 : Frequency ℚ).value := by decide +kernel
  obtain ⟨c, ns, hc, hn, hs⟩ := counts_of_queries hf (1 / 2) [3 / 5, 11 / 20, 611 / 600, 0, 23 / 40]
  exact ⟨hf, c, ns, _, hc, hn, hs.trans (by decide +kernel)⟩

end Cadence

end ChipEight
