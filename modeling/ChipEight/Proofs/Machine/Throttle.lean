import ChipEight.Proofs.Cadence
import ChipEight.Proofs.Machine.Limits

/-!
A run at a limited rate, in exact arithmetic. It begins no more cycles than there have been full
periods, and the periods for which a turn makes no cycle are lost to the later turns.
-/

namespace ChipEight

section

variable {τ η : Type} [TimeScale τ] {h : Host τ η} {lim : Limits τ η}

lemma Schedule.instructionsDue_le {s s' : Schedule τ} {now : τ} {n : ℕ}
    (hd : s.instructionsDue now = .ok (n, s')) : n ≤ batchLimit := by
  rw [instructionsDue] at hd
  split at hd
  · cases hd
    decide
  · split at hd
    · cases hd
    · cases hd
      exact min_le_right _ _

namespace Stage

variable {s : Stage τ η} {l : Loop τ η} {granted : ℕ}

def reading? (h : Host τ η) : Stage τ η → Option τ
  | grant l => some (h.readClock l.machine.host).1
  | _ => none

def isPoll : Stage τ η → Bool
  | poll _ => true
  | _ => false

/-- The cycles that the turn may still begin, if that is `granted` before it is told. -/
def allowance (granted : ℕ) : Stage τ η → ℕ
  | poll _ | check _ | grant _ => granted
  | ask _ left _ => left
  | cycle _ left _ => left + 1
  | rest _ _ | frame _ | ended _ => 0

lemma instructions_next (hr : s.reading? h = none) :
    (next h lim s).loop.machine.schedule.instructions =
      s.loop.machine.schedule.instructions := by
  revert hr
  fun_cases next h lim s with
  | case1 l m hp | case2 l m hp =>
    exact fun _ => congrArg Schedule.instructions (Loop.schedule_of_pollWindow hp)
  | case3 l e l' hc | case4 l l' hc | case5 l l' hc =>
    obtain ⟨host, running, he⟩ := Loop.cancelled_state lim l
    rw [hc] at he
    exact fun _ => congrArg (·.machine.schedule.instructions) he
  | case9 budget left l e l' hc | case10 budget left l l' hc | case11 budget left l l' hc =>
    obtain ⟨host, running, he⟩ := Loop.cancelled_state lim l
    rw [hc] at he
    exact fun _ => congrArg (·.machine.schedule.instructions) he
  | case6 | case7 =>
    intro hr
    cases hr
  | case12 budget left l e m hm | case13 budget left l i m hm =>
    obtain ⟨processor, journal, ht⟩ := l.machine.tick_state h
    rw [hm] at ht
    exact fun _ => congrArg (·.schedule.instructions) ht
  | case15 budget l now host hk schedule m hf | case16 l now host hk due schedule hf
  | case17 budget l now host hk due schedule hf =>
    exact fun _ => Schedule.instructions_frameDue hf
  | case19 l m hm =>
    intro _
    obtain ⟨journal, he⟩ := Loop.endFrame_eq h m
    obtain ⟨rfl, -⟩ | ⟨-, -, host, -, rfl⟩ := Loop.showScreen_ok h l.machine hm
    all_goals
      change (Loop.endFrame h _).schedule.instructions = _
      rw [he]
      rfl
  | _ => exact fun _ => rfl

lemma allowance_next (hr : s.reading? h = none)
    (hp : granted = 0 ∨ (next h lim s).isPoll = false) :
    (if s.isCycle then 1 else 0) + (next h lim s).allowance granted ≤ s.allowance granted := by
  revert hr hp
  fun_cases next h lim s with
  | case13 budget left l i m hm => exact fun _ _ => (Nat.add_comm 1 left).le
  | _ => simp [reading?, isPoll, isCycle, allowance]

lemma allowance_grant : (next h lim (grant l)).allowance granted ≤ Schedule.batchLimit := by
  simp only [next]
  split
  · exact Nat.zero_le _
  · rename_i hd
    exact Schedule.instructionsDue_le hd

omit [TimeScale τ] in
lemma isCycle_le_allowance : (if s.isCycle then 1 else 0) ≤ s.allowance granted := by
  cases s <;> simp [isCycle, allowance]

omit [TimeScale τ] in
lemma allowance_poll (hs : s.isPoll = true) : s.allowance granted = granted := by
  cases s with
  | poll l => rfl
  | _ => cases hs

omit [TimeScale τ] in
lemma of_reading {t : τ} (hr : s.reading? h = some t) :
    ∃ l, s = grant l ∧ (h.readClock l.machine.host).1 = t := by
  cases s with
  | grant l => exact ⟨l, rfl, Option.some.inj hr⟩
  | _ => cases hr

end Stage

namespace Machine

variable (h lim) in
def readings (m : Machine τ η) (k : ℕ) : List τ :=
  (List.range k).filterMap fun j => (m.stage h lim j).reading? h

variable {m : Machine τ η} {i j k : ℕ} {t : τ}

lemma readings_succ (k : ℕ) :
    m.readings h lim (k + 1) =
      m.readings h lim k ++ ((m.stage h lim k).reading? h).toList := by
  rw [readings, List.range_succ, List.filterMap_append]
  rfl

lemma mem_readings (hr : (m.stage h lim i).reading? h = some t) (hi : i < k) :
    t ∈ m.readings h lim k :=
  List.mem_filterMap.mpr ⟨i, List.mem_range.mpr hi, hr⟩

lemma begun_succ (k : ℕ) : m.begun h lim (k + 1) =
    m.begun h lim k + if (m.stage h lim k).isCycle then 1 else 0 := Nat.count_succ _ k

lemma begun_turn (hi : (m.stage h lim i).isPoll = true) (hk : i ≤ k)
    (hp : ∀ j ≤ k, i < j → (m.stage h lim j).isPoll = false) :
    m.begun h lim k + (m.stage h lim k).allowance Schedule.batchLimit ≤
      m.begun h lim i + Schedule.batchLimit := by
  induction k, hk using Nat.le_induction with
  | base => rw [Stage.allowance_poll hi]
  | succ k hk ih =>
    have hb := ih fun j hj => hp j (Nat.le_succ_of_le hj)
    have hn := hp (k + 1) le_rfl (Nat.lt_succ_of_le hk)
    rw [begun_succ]
    rw [stage_succ] at hn ⊢
    cases hr : (m.stage h lim k).reading? h with
    | none =>
      have ha := Stage.allowance_next hr (.inr hn : Schedule.batchLimit = 0 ∨ _)
      omega
    | some t =>
      obtain ⟨l', hl, -⟩ := Stage.of_reading hr
      rw [hl] at hb ⊢
      exact (Nat.add_le_add_left Stage.allowance_grant _).trans hb

end Machine

end

open Cadence

variable {η : Type} {h : Host ℚ η} {lim : Limits ℚ η} {f start : ℚ}

namespace Stage

variable {n : ℕ} {l : Loop ℚ η}

lemma next_grant (hf : 0 < f) (hc : l.machine.schedule.instructions = some (counted f start n)) :
    let p := periods f start (h.readClock l.machine.host).1
    (next h lim (grant l)).loop.machine.schedule.instructions =
        some (counted f start (max n p)) ∧
      ∀ granted, (next h lim (grant l)).allowance granted ≤ p - n := by
  intro p
  have hd : l.machine.schedule.instructionsDue (h.readClock l.machine.host).1 =
      .ok (min (p - n) Schedule.batchLimit,
        { l.machine.schedule with instructions := some (counted f start (max n p)) }) := by
    rw [Schedule.instructionsDue, hc]
    dsimp only
    rw [due_counted hf]
  simp only [next, hd]
  exact ⟨rfl, fun _ => min_le_left _ _⟩

end Stage

namespace Machine

variable {m : Machine ℚ η} {r : ℚ} {i k : ℕ}

lemma instructions_stage (hf : 0 < f) (hm : m.schedule.instructions = some ⟨f, 1 / f, r⟩)
    (hs : (h.readClock m.host).1 = start) (k : ℕ) :
    (m.stage h lim k).loop.machine.schedule.instructions =
      some (counted f start (periodsTo f start (m.readings h lim k))) := by
  induction k with
  | zero =>
    change m.schedule.instructions.map (·.reset (h.readClock m.host).1) = some (counted f start 0)
    rw [hm, hs, counted_zero]
    rfl
  | succ k ih =>
    rw [stage_succ, readings_succ]
    cases hr : (m.stage h lim k).reading? h with
    | none =>
      rw [Stage.instructions_next hr, ih, Option.toList_none, List.append_nil]
    | some t =>
      obtain ⟨l, hl, rfl⟩ := Stage.of_reading hr
      rw [hl] at ih ⊢
      rw [Option.toList_some, periodsTo_append]
      exact (Stage.next_grant hf ih).1

lemma begun_add_le (hf : 0 < f) (hm : m.schedule.instructions = some ⟨f, 1 / f, r⟩)
    (hs : (h.readClock m.host).1 = start) (hk : i ≤ k) :
    m.begun h lim k + (m.stage h lim k).allowance 0 + periodsTo f start (m.readings h lim i) ≤
      m.begun h lim i + (m.stage h lim i).allowance 0 +
        periodsTo f start (m.readings h lim k) := by
  -- Only a grant lets the cycles begun and still allowed grow, by periods that it counts.
  induction k, hk using Nat.le_induction with
  | base => exact le_rfl
  | succ k hk ih =>
    rw [stage_succ, begun_succ, readings_succ]
    cases hr : (m.stage h lim k).reading? h with
    | none =>
      have ha : _ + (Stage.next h lim _).allowance 0 ≤ _ :=
        Stage.allowance_next hr (.inl rfl)
      rw [Option.toList_none, List.append_nil]
      omega
    | some t =>
      have hc : (m.stage h lim k).loop.machine.schedule.instructions = _ :=
        instructions_stage hf hm hs k
      obtain ⟨l, hl, rfl⟩ := Stage.of_reading hr
      rw [hl] at ih hc ⊢
      have ha : (Stage.next h lim (.grant l)).allowance 0 ≤ _ :=
        (Stage.next_grant (l := l) hf hc).2 0
      rw [Option.toList_some, periodsTo_append]
      have hg : (if (Stage.grant l).isCycle then 1 else 0) = 0 := rfl
      omega

/-- The cycles that a run begins number at most the full periods from its start to the latest
reading for which cycles were granted, and in one turn, from a poll of the window to the next, they
are at most a batch. Those of the turns that follow a reading are at most the periods that passed
after it, so that nothing is made up for the periods that were not used before. -/
theorem run_throttled {hz : Frequency ℚ} {c : Cadence ℚ} (hf : 0 < hz.value)
    (hc : ofFrequency? hz r = .ok c) (hm : m.schedule.instructions = some c)
    (hs : (h.readClock m.host).1 = start) (lim : Limits ℚ η) :
    (∀ k u, (∀ t ∈ m.readings h lim k, t ≤ u) → m.begun h lim k ≤ periods hz.value start u) ∧
    (∀ i k, (m.stage h lim i).isPoll = true →
      (∀ j < k, i < j → (m.stage h lim j).isPoll = false) →
      m.begun h lim k ≤ m.begun h lim i + 1000) ∧
    (∀ i j k t u, (m.stage h lim i).reading? h = some t → (m.stage h lim j).isPoll = true →
      i < j → j ≤ k → (∀ t ∈ m.readings h lim k, t ≤ u) →
      m.begun h lim k + periods hz.value start t ≤
        m.begun h lim j + periods hz.value start u) ∧
    ∀ fuel o, m.run h lim fuel = some o →
      ∃ k e, m.stage h lim k = .ended e ∧ o = Loop.finish h e ∧
        ∀ n m', o = .done n m' → n ≤ m.begun h lim k := by
  rw [ofFrequency?_of_pos hf r, counted_zero] at hc
  rw [← Except.ok.inj hc] at hm
  refine ⟨fun k u hu => ?_, fun i k hl hp => ?_, fun i j k t u ht hl hi hj hu => ?_,
    fun fuel o hr => ?_⟩
  · have ha : m.begun h lim k + (m.stage h lim k).allowance 0 + periodsTo hz.value start [] ≤
        0 + 0 + periodsTo hz.value start (m.readings h lim k) :=
      begun_add_le hf hm hs k.zero_le
    have hu : periodsTo hz.value start (m.readings h lim k) ≤ _ := periodsTo_le hf hu
    omega
  · obtain hk | hk := le_or_gt k i
    · exact (Nat.count_monotone _ hk).trans (Nat.le_add_right _ _)
    · obtain ⟨k, rfl⟩ := Nat.exists_eq_succ_of_ne_zero (Nat.ne_zero_of_lt hk)
      have hb := begun_turn hl (Nat.le_of_lt_succ hk) fun j hj => hp j (Nat.lt_succ_of_le hj)
      have hc : (if (m.stage h lim k).isCycle then 1 else 0) ≤
          (m.stage h lim k).allowance Schedule.batchLimit :=
        Stage.isCycle_le_allowance
      rw [begun_succ]
      exact (Nat.add_le_add_left hc _).trans hb
  · have hn : (m.stage h lim j).allowance 0 = 0 := Stage.allowance_poll hl
    have ht : periods hz.value start t ≤ periodsTo hz.value start (m.readings h lim j) :=
      periods_le_periodsTo (mem_readings ht hi)
    have hu : periodsTo hz.value start (m.readings h lim k) ≤ _ := periodsTo_le hf hu
    have ha : m.begun h lim k + (m.stage h lim k).allowance 0 + _ ≤
        m.begun h lim j + (m.stage h lim j).allowance 0 + _ := begun_add_le hf hm hs hj
    omega
  · obtain ⟨k, e, hk, rfl, hn⟩ := ended_of_run hr
    refine ⟨k, e, hk, rfl, fun n m' ho => ?_⟩
    rw [← hn n m' ho]
    exact completed_le_begun k

def paced : Machine ℚ (ScriptedHost ℚ) :=
  { circling 0 (.start 0 (3 / 4) none false) with
    schedule := ⟨0, some ⟨2, 1 / 2, 0⟩, ⟨60, 1 / 60, 0⟩⟩ }

/-- The second batch grants five cycles, of which the limit of the run leaves four. -/
theorem paced_throttled :
    paced.readings ScriptedHost.host ⟨some 5, none⟩ 24 = [3 / 2, 15 / 4] ∧
      paced.begun ScriptedHost.host ⟨some 5, none⟩ 24 ≤ 6 ∧
      paced.begun ScriptedHost.host ⟨some 5, none⟩ 22 ≤
        paced.begun ScriptedHost.host ⟨some 5, none⟩ 8 + 1000 ∧
      paced.begun ScriptedHost.host ⟨some 5, none⟩ 24 + 1 ≤
        paced.begun ScriptedHost.host ⟨some 5, none⟩ 8 + 6 ∧
      ∃ m' k, paced.run ScriptedHost.host ⟨some 5, none⟩ 3 = some (.done 5 m') ∧
        5 ≤ paced.begun ScriptedHost.host ⟨some 5, none⟩ k := by
  have hf : 0 < (Frequency.whole 2 : Frequency ℚ).value := by decide +kernel
  have hr : paced.readings ScriptedHost.host ⟨some 5, none⟩ 24 = [3 / 2, 15 / 4] := by
    decide +kernel
  have hu : ∀ t ∈ paced.readings ScriptedHost.host ⟨some 5, none⟩ 24, t ≤ (15 / 4 : ℚ) := by
    rw [hr]
    decide +kernel
  have hp : periods (Frequency.whole 2 : Frequency ℚ).value (3 / 4) (3 / 2) = 1 := by
    decide +kernel
  have hq : periods (Frequency.whole 2 : Frequency ℚ).value (3 / 4) (15 / 4) = 6 := by
    decide +kernel
  have hs : (ScriptedHost.host.readClock paced.host).1 = 3 / 4 := by decide +kernel
  obtain ⟨ha, hb, hc, hd⟩ := run_throttled (r := 0) hf rfl rfl hs ⟨some 5, none⟩
  refine ⟨hr, ?_, ?_, ?_, ?_⟩
  · exact (ha 24 _ hu).trans hq.le
  · exact hb 8 22 (by decide +kernel) (by decide +kernel)
  · have hl : paced.begun ScriptedHost.host ⟨some 5, none⟩ 24 + _ ≤ _ :=
      hc 2 8 24 (3 / 2) _ (by decide +kernel) (by decide +kernel) (by decide) (by decide) hu
    rwa [hp, hq] at hl
  · have hv : (paced.run ScriptedHost.host ⟨some 5, none⟩ 3).map Outcome.answer =
        some (.ok 5) := by
      decide +kernel
    obtain ⟨o, ho, hv⟩ := Option.map_eq_some_iff.mp hv
    obtain ⟨m', rfl⟩ := Outcome.answer_eq_ok.mp hv
    obtain ⟨k, e, -, -, hn⟩ := hd 3 _ ho
    exact ⟨m', k, ho, hn 5 m' rfl⟩

end Machine

end ChipEight
