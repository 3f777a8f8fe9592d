import ChipEight.Proofs.Machine.Failures
import ChipEight.Proofs.Machine.Replay

/-!
What ends a run. Every cycle comes right after a question whether to stop that was answered no; the
window and the caller are heeded before the next cycle, and the limit is never exceeded.
-/

namespace ChipEight

variable {τ η : Type}

namespace Loop

variable {h : Host τ η} {lim : Limits τ η} {m m' : Machine τ η} {l l' : Loop τ η} {b : Bool}

lemma running_of_pollWindow (hp : pollWindow h m = (b, m')) (hb : b = false) :
    m'.running = true ↔
      m.running = true ∧ ∀ v ∈ windowVerdict? h m, v.answer = false := by
  obtain ⟨hv, he⟩ | ⟨-, he⟩ | ⟨goOn, keypad, journal, hv, he⟩ := pollWindow_cases h m
  · rw [he] at hp
    cases hp
    simp [hv]
  · rw [he] at hp
    cases hp
    cases hb
  · rw [he] at hp
    cases hp
    simp [hv]

lemma verdict_of_interrupted (hp : pollWindow h m = (true, m')) :
    windowVerdict? h m = some ⟨true, true⟩ := by
  obtain ⟨-, he⟩ | ⟨hv, -⟩ | ⟨goOn, keypad, journal, -, he⟩ := pollWindow_cases h m
  · simp [he] at hp
  · exact hv
  · simp [he] at hp

lemma running_of_cancelled (hc : l.cancelled lim = .done b l') :
    l'.machine.running = true ↔
      l.machine.running = true ∧ ∀ v ∈ l.verdict? lim, v = ⟨false, false⟩ := by
  obtain ⟨hr, he⟩ | ⟨hr, hv, he | ⟨e, host, he⟩⟩ | ⟨hr, v, host, hv, he⟩ := cancelled_cases lim l
  all_goals
    rw [he] at hc
    cases hc
  · simp [hr]
  · simp [hr, hv]
  · obtain ⟨answer, stopped⟩ := v
    simp [hr, hv]

lemma cancelled_eq_false_iff (hc : l.cancelled lim = .done b l') :
    b = false ↔ l.machine.running = true ∧ (∀ v ∈ l.verdict? lim, v.answer = false) ∧
      l.spent lim = false := by
  obtain ⟨hr, he⟩ | ⟨hr, hv, he | ⟨e, host, he⟩⟩ | ⟨hr, v, host, hv, he⟩ := cancelled_cases lim l
  all_goals
    rw [he] at hc
    cases hc
  · simp [hr]
  · simp [hr, hv]
  · simp [hr, hv]

lemma cancelled_of_not_running (hr : l.machine.running = false) :
    l.cancelled lim = .done true l := by
  simp [cancelled, hr]

lemma cycles_cancelled (lim : Limits τ η) (l : Loop τ η) :
    (l.cancelled lim).state.cycles = l.cycles := by
  obtain ⟨host, running, he⟩ := cancelled_state lim l
  rw [he]

lemma cycles_of_cancelled (hc : l.cancelled lim = .done b l') : l'.cycles = l.cycles := by
  have hs := cycles_cancelled lim l
  rwa [hc] at hs

end Loop

variable [TimeScale τ]

lemma Schedule.instructions_frameDue {s s' : Schedule τ} {now : τ} {due : Bool}
    (hf : s.frameDue now = .ok (due, s')) : s'.instructions = s.instructions := by
  rw [frameDue] at hf
  split at hf
  · cases hf
  · cases hf
    rfl

namespace Stage

variable {h : Host τ η} {lim : Limits τ η} {s : Stage τ η} {l : Loop τ η} {v : Verdict}

def verdict? (h : Host τ η) (lim : Limits τ η) : Stage τ η → Option Verdict
  | poll l => Loop.windowVerdict? h l.machine
  | check l | ask _ (_ + 1) l => l.verdict? lim
  | _ => none

def completes (h : Host τ η) : Stage τ η → Bool
  | cycle _ _ l =>
    match l.machine.tick h with
    | .failed _ _ => false
    | .done _ _ => true
  | _ => false

lemma of_next_eq_cycle {budget left : ℕ} (hn : next h lim s = cycle budget left l) :
    ∃ l₀, s = ask budget (left + 1) l₀ ∧ l₀.cancelled lim = .done false l := by
  revert hn
  fun_cases next h lim s with
  | case11 budget left l₀ l hc =>
    intro hn
    cases hn
    exact ⟨l₀, rfl, hc⟩
  | _ =>
    intro hn
    cases hn

def CalledOff : Stage τ η → Prop
  | cycle _ _ _ => False
  | ended _ => True
  | s => s.loop.machine.running = false

lemma running_tick (h : Host τ η) (m : Machine τ η) : (m.tick h).state.running = m.running := by
  obtain ⟨processor, journal, hm⟩ := m.tick_state h
  rw [hm]

omit [TimeScale τ] in
lemma running_frame {m m' : Machine τ η} (hs : Loop.showScreen h m = .ok m') :
    (Loop.endFrame h m').running = m.running := by
  obtain ⟨journal, he⟩ := Loop.endFrame_eq h m'
  obtain ⟨rfl, -⟩ | ⟨-, -, host, -, rfl⟩ := Loop.showScreen_ok h m hs
  all_goals rw [he]

lemma calledOff_next (hs : s.CalledOff) : (next h lim s).CalledOff := by
  fun_cases next h lim s with
  | case2 l m hp =>
    have hr : l.machine.running = false := hs
    have hm := Loop.running_of_pollWindow hp rfl
    simpa [CalledOff, loop, hr] using hm
  | case5 l l' hc | case11 budget left l l' hc =>
    have hr : l.machine.running = false := hs
    simp [Loop.cancelled_of_not_running hr] at hc
  | case10 budget left l l' hc =>
    have hr : l.machine.running = false := hs
    rw [Loop.cancelled_of_not_running hr] at hc
    cases hc
    exact hr
  | case7 | case8 | case15 | case16 | case17 => exact hs
  | case13 => exact hs.elim
  | case19 l m hm =>
    have hr : l.machine.running = false := hs
    exact (running_frame hm).trans hr
  | _ => trivial

lemma calledOff_of_verdict (hv : s.verdict? h lim = some v) (ha : v.answer = true) :
    (next h lim s).CalledOff := by
  revert hv
  fun_cases next h lim s with
  | case2 l m hp =>
    intro hv
    have hm := Loop.running_of_pollWindow hp rfl
    change Loop.windowVerdict? h l.machine = some v at hv
    simpa [CalledOff, loop, hv, ha] using hm
  | case5 l l' hc | case11 budget left l l' hc =>
    intro hv
    change l.verdict? lim = some v at hv
    have hf := (Loop.cancelled_eq_false_iff hc).mp rfl
    simp [hv, ha] at hf
  | case10 budget left l l' hc =>
    intro hv
    change l.verdict? lim = some v at hv
    have hr := Loop.running_of_cancelled hc
    change l'.machine.running = false
    rw [← Bool.not_eq_true, hr, hv]
    rintro ⟨-, hw⟩
    simp [hw v rfl] at ha
  | case1 | case3 | case4 | case9 | case20 => exact fun _ => trivial
  | _ =>
    intro hv
    cases hv

omit [TimeScale τ] in
lemma isCycle_of_verdict (hv : s.verdict? h lim = some v) : s.isCycle = false := by
  cases s with
  | cycle budget left l => cases hv
  | _ => rfl

omit [TimeScale τ] in
lemma isCycle_of_calledOff (hs : s.CalledOff) : s.isCycle = false := by
  cases s with
  | cycle budget left l => exact hs.elim
  | _ => rfl

lemma cycles_next : (next h lim s).loop.cycles =
    s.loop.cycles + if s.completes h then 1 else 0 := by
  fun_cases next h lim s with
  | case3 l e l' hc | case9 budget left l e l' hc =>
    have hn := Loop.cycles_cancelled lim l
    rw [hc] at hn
    exact hn
  | case4 l l' hc | case5 l l' hc | case10 budget left l l' hc | case11 budget left l l' hc =>
    exact Loop.cycles_of_cancelled hc
  | case12 budget left l e m hm | case13 budget left l i m hm =>
    simp [completes, hm, loop, Outcome.state]
  | _ => rfl

/-- The cycles begun so far, and room for one more where it is about to be made. -/
def Within (c : ℤ) (n : ℕ) : Stage τ η → Prop
  | cycle _ _ l => n = l.cycles ∧ (n : ℤ) < c
  | ended _ => n ≤ max 0 c
  | s => n = s.loop.cycles ∧ (n : ℤ) ≤ max 0 c

lemma within_next {c : ℤ} {n : ℕ} (hc : lim.maxCycles = some c) (hs : s.Within c n) :
    (next h lim s).Within c (n + if s.isCycle then 1 else 0) := by
  fun_cases next h lim s with
  | case1 | case3 | case4 | case6 | case9 | case14 | case18 => exact hs.2
  | case2 | case7 | case8 | case15 | case16 | case17 | case19 => exact hs
  | case5 l l' ha | case10 budget left l l' ha =>
    exact ⟨hs.1.trans (Loop.cycles_of_cancelled ha).symm, hs.2⟩
  | case11 budget left l l' ha =>
    have hf := (Loop.cancelled_eq_false_iff ha).mp rfl
    have hl : (l.cycles : ℤ) < c := (Loop.spent_eq_false_iff lim l).mp hf.2.2 c hc
    have hn : n = l.cycles := hs.1
    refine ⟨hn.trans (Loop.cycles_of_cancelled ha).symm, ?_⟩
    rwa [hn]
  | case12 budget left l e m hm =>
    have hn : (n : ℤ) < c := hs.2
    change ((n + 1 : ℕ) : ℤ) ≤ max 0 c
    omega
  | case13 budget left l i m hm =>
    have hl : n = l.cycles := hs.1
    have hn : (n : ℤ) < c := hs.2
    refine ⟨congrArg (· + 1) hl, ?_⟩
    change ((n + 1 : ℕ) : ℤ) ≤ max 0 c
    omega
  | case20 => exact hs

def Willing (c : ℤ) : Stage τ η → Prop
  | ended (.done _ l) => c ≤ l.cycles
  | ended (.failed _ _) => True
  | s => s.loop.machine.running = true

lemma willing_next {c : ℤ} (hc : lim.maxCycles = some c)
    (hv : ∀ v ∈ s.verdict? h lim, v = ⟨false, false⟩) (hs : s.Willing c) :
    (next h lim s).Willing c := by
  revert hv
  fun_cases next h lim s with
  | case1 l m hp =>
    intro hv
    have hw := Loop.verdict_of_interrupted hp
    simpa using hv _ hw
  | case2 l m hp =>
    intro hv
    refine (Loop.running_of_pollWindow hp rfl).mpr ⟨hs, fun v hw => ?_⟩
    rw [hv v hw]
  | case4 l l' ha =>
    intro hv
    have hf := (Loop.cancelled_eq_false_iff ha).not.mp Bool.false_ne_true.symm
    have hl : l.spent lim = true := by
      by_contra hn
      refine hf ⟨hs, fun v hw => ?_, Bool.eq_false_iff.mpr hn⟩
      rw [hv v hw]
    change c ≤ l'.cycles
    rw [Loop.cycles_of_cancelled ha]
    simpa [Loop.spent, hc] using hl
  | case5 l l' ha | case10 budget left l l' ha | case11 budget left l l' ha =>
    intro hv
    exact (Loop.running_of_cancelled ha).mpr ⟨hs, hv⟩
  | case13 budget left l i m hm =>
    intro _
    have hr := running_tick h l.machine
    rw [hm] at hr
    exact hr.trans hs
  | case19 l m hm => exact fun _ => (running_frame hm).trans hs
  | case7 | case8 | case15 | case16 | case17 | case20 => exact fun _ => hs
  | _ => exact fun _ => trivial

end Stage

namespace Loop

variable {h : Host τ η} {lim : Limits τ η} {l l' : Loop τ η} {m m' : Machine τ η} {b : Bool}

omit [TimeScale τ] in
lemma schedule_of_pollWindow (hp : pollWindow h m = (b, m')) : m'.schedule = m.schedule := by
  obtain ⟨keypad, journal, host, running, he⟩ := pollWindow_state h m
  rw [hp] at he
  change m' = _ at he
  rw [he]

omit [TimeScale τ] in
lemma schedule_of_cancelled (hc : l.cancelled lim = .done b l') :
    l'.machine.schedule = l.machine.schedule := by
  obtain ⟨host, running, he⟩ := cancelled_state lim l
  rw [hc] at he
  change l' = _ at he
  rw [he]

lemma rest_done {budget : ℕ} (hr : rest h budget l = .done b l') :
    l'.cycles = l.cycles ∧ l'.machine.running = l.machine.running ∧
      l'.machine.schedule.instructions = l.machine.schedule.instructions := by
  rw [rest] at hr
  dsimp only at hr
  split at hr
  · cases hr
  · rename_i due schedule hf
    have hi : schedule.instructions = l.machine.schedule.instructions :=
      Schedule.instructions_frameDue hf
    split at hr
    · split at hr
      · cases hr
      · rename_i m hm
        cases hr
        have hn := Stage.running_frame hm
        refine ⟨rfl, hn, ?_⟩
        obtain ⟨journal, he⟩ := endFrame_eq h m
        obtain ⟨rfl, -⟩ | ⟨-, -, host, -, rfl⟩ := showScreen_ok h _ hm
        all_goals
          rw [he]
          exact hi
    · split at hr
      all_goals
        cases hr
        exact ⟨rfl, rfl, hi⟩

omit [TimeScale τ] in
lemma not_running_of_cancelled (hc : l.cancelled lim = .done true l') (hs : l.spent lim = false) :
    l'.machine.running = false := by
  rw [← Bool.not_eq_true, running_of_cancelled hc]
  rintro ⟨hr, hv⟩
  refine absurd ((cancelled_eq_false_iff hc).mpr ⟨hr, fun v hw => ?_, hs⟩) nofun
  rw [hv v hw]

omit [TimeScale τ] in
lemma spent_congr (hc : l'.cycles = l.cycles) : l'.spent lim = l.spent lim := by
  rw [spent, spent, hc]

lemma batch_one (hs : l.spent lim = false) (hb : batch h lim 1 l = .done () l') :
    l'.machine.schedule.instructions = l.machine.schedule.instructions ∧
      (l'.machine.running = false ∨ l'.cycles = l.cycles + 1) := by
  rw [batch] at hb
  cases hc : l.cancelled lim with
  | failed e l₁ =>
    rw [hc] at hb
    cases hb
  | done b l₁ =>
    have hd := schedule_of_cancelled hc
    rw [hc] at hb
    cases b with
    | true =>
      cases hb
      exact ⟨by rw [hd], .inl (not_running_of_cancelled hc hs)⟩
    | false =>
      obtain ⟨processor, journal, ht⟩ := l₁.machine.tick_state h
      dsimp only at hb
      cases hm : l₁.machine.tick h with
      | failed e m =>
        rw [hm] at hb
        cases hb
      | done i m =>
        rw [hm] at hb ht
        change m = _ at ht
        cases hb
        refine ⟨?_, .inr (congrArg (· + 1) (cycles_of_cancelled hc))⟩
        rw [ht, ← hd]

lemma turn_unlimited (hu : l.machine.schedule.instructions = none)
    (ht : turn h lim l = .done true l') :
    l.machine.running = true ∧ l.spent lim = false ∧
      l'.machine.schedule.instructions = none ∧
      (l'.machine.running = false ∨ l'.cycles = l.cycles + 1) := by
  rw [turn] at ht
  rcases hp : pollWindow h l.machine with ⟨broken, m⟩
  rw [hp] at ht
  cases broken with
  | true => cases ht
  | false =>
    dsimp only at ht
    cases hc : cancelled lim { l with machine := m } with
    | failed e l₁ =>
      rw [hc] at ht
      cases ht
    | done b l₁ =>
      rw [hc] at ht
      cases b with
      | true => cases ht
      | false =>
        obtain ⟨hr, -, hs⟩ := (cancelled_eq_false_iff hc).mp rfl
        have hn : l₁.cycles = l.cycles := by rw [cycles_of_cancelled hc]
        have hi : l₁.machine.schedule.instructions = none := by
          rw [schedule_of_cancelled hc, schedule_of_pollWindow hp, hu]
        have hd (now : τ) : l₁.machine.schedule.instructionsDue now =
            .ok (1, l₁.machine.schedule) := by
          rw [Schedule.instructionsDue, hi]
        simp only [hd] at ht
        let begun : Loop τ η :=
          { l₁ with machine := { l₁.machine with host := (h.readClock l₁.machine.host).2 } }
        cases hb : batch h lim 1 begun with
        | failed e l₂ =>
          rw [hb] at ht
          cases ht
        | done u l₂ =>
          rw [hb] at ht
          have hsb : begun.spent lim = false := (spent_congr hn).trans hs
          obtain ⟨hib, hor⟩ := batch_one hsb hb
          obtain ⟨hcr, hrr, hir⟩ := rest_done ht
          refine ⟨((running_of_pollWindow hp rfl).mp hr).1, hs, ?_, ?_⟩
          · rw [hir, hib]
            exact hi
          · rw [hcr, hrr, ← hn]
            exact hor

lemma turns_unlimited {c : ℤ} {fuel : ℕ} (hc : lim.maxCycles = some c)
    (hu : l.machine.schedule.instructions = none)
    (hf : (if l.machine.running then (c - l.cycles).toNat + 1 else 0) < fuel) :
    ∃ o, turns h lim fuel l = some o := by
  induction fuel generalizing l with
  | zero => cases hf
  | succ fuel ih =>
    rw [turns]
    cases ht : turn h lim l with
    | failed e l' => exact ⟨_, rfl⟩
    | done more l' =>
      cases more with
      | false => exact ⟨_, rfl⟩
      | true =>
        obtain ⟨hr, hs, hi, hor⟩ := turn_unlimited hu ht
        have hl : (l.cycles : ℤ) < c := (spent_eq_false_iff lim l).mp hs c hc
        rw [if_pos hr] at hf
        refine ih hi ?_
        split
        · obtain hr' | hn := hor
          · simp_all
          · omega
        · omega

end Loop

namespace Machine

variable (h : Host τ η) (lim : Limits τ η) (m : Machine τ η)

def begun (k : ℕ) : ℕ := Nat.count (fun j => (m.stage h lim j).isCycle) k

def completed (k : ℕ) : ℕ := Nat.count (fun j => (m.stage h lim j).completes h) k

variable {h lim m}

lemma calledOff_stage {j k : ℕ} (hs : (m.stage h lim j).CalledOff) (hk : j ≤ k) :
    (m.stage h lim k).CalledOff := by
  induction k, hk using Nat.le_induction with
  | base => exact hs
  | succ k _ ih =>
    rw [stage_succ]
    exact Stage.calledOff_next ih

lemma cycles_stage (k : ℕ) : (m.stage h lim k).loop.cycles = m.completed h lim k := by
  induction k with
  | zero => rfl
  | succ k ih => rw [stage_succ, Stage.cycles_next, ih, completed, completed, Nat.count_succ]

lemma within_stage {c : ℤ} (hc : lim.maxCycles = some c) (k : ℕ) :
    (m.stage h lim k).Within c (m.begun h lim k) := by
  induction k with
  | zero => exact ⟨rfl, le_max_left 0 c⟩
  | succ k ih =>
    rw [stage_succ, begun, Nat.count_succ]
    exact Stage.within_next hc ih

lemma begun_le {c : ℤ} (hc : lim.maxCycles = some c) (k : ℕ) : (m.begun h lim k : ℤ) ≤ max 0 c := by
  have hw := within_stage (h := h) (m := m) hc k
  cases hs : m.stage h lim k with
  | ended o =>
    rw [hs] at hw
    exact hw
  | cycle budget left l =>
    rw [hs] at hw
    exact hw.2.le.trans (le_max_right 0 c)
  | _ =>
    rw [hs] at hw
    exact hw.2

lemma completed_le_begun (k : ℕ) : m.completed h lim k ≤ m.begun h lim k := by
  refine Nat.count_mono_left fun j hj => ?_
  cases hs : m.stage h lim j <;> simp_all [Stage.completes, Stage.isCycle]

lemma willing_stage {c : ℤ} (hc : lim.maxCycles = some c)
    (hv : ∀ k, ∀ v ∈ (m.stage h lim k).verdict? h lim, v = ⟨false, false⟩) (k : ℕ) :
    (m.stage h lim k).Willing c := by
  induction k with
  | zero => rfl
  | succ k ih =>
    rw [stage_succ]
    exact Stage.willing_next hc (hv k) ih

lemma cycles_of_turns {c : ℤ} {fuel : ℕ} {l : Loop τ η} (hc : lim.maxCycles = some c)
    (hv : ∀ k, ∀ v ∈ (m.stage h lim k).verdict? h lim, v = ⟨false, false⟩)
    (ho : Loop.turns h lim fuel (Loop.start h m) = some (.done () l)) : l.cycles = c.toNat := by
  obtain ⟨k, hk⟩ := stage_of_turns ho
  have hlow : c ≤ l.cycles := by
    have hw := willing_stage hc hv k
    rwa [hk] at hw
  have hhigh : (m.begun h lim k : ℤ) ≤ max 0 c := begun_le hc k
  have hn : l.cycles = m.completed h lim k := by rw [← cycles_stage, hk, Stage.loop, Outcome.state]
  have hle : m.completed h lim k ≤ m.begun h lim k := completed_le_begun k
  omega

lemma ended_of_run {fuel : ℕ} {o : Outcome Failure (Machine τ η) ℕ}
    (hr : m.run h lim fuel = some o) :
    ∃ k e, m.stage h lim k = .ended e ∧ o = Loop.finish h e ∧
      ∀ n m', o = .done n m' → m.completed h lim k = n := by
  obtain ⟨e, he, rfl⟩ := Option.map_eq_some_iff.mp hr
  obtain ⟨k, hk⟩ := stage_of_turns he
  refine ⟨k, e, hk, rfl, fun n m' hn => ?_⟩
  rw [← cycles_stage, hk]
  cases e with
  | done u l =>
    cases hn
    rfl
  | failed e l => cases e <;> cases hn

lemma run_ends {c : ℤ} {fuel : ℕ} (hc : lim.maxCycles = some c)
    (hu : m.schedule.instructions = none) (hf : c.toNat + 1 < fuel) :
    ∃ o, m.run h lim fuel = some o := by
  have hi : (Loop.start h m).machine.schedule.instructions = none := by
    change m.schedule.instructions.map _ = none
    rw [hu, Option.map_none]
  have hr : (Loop.start h m).machine.running = true := rfl
  have hz : (c - (Loop.start h m).cycles).toNat = c.toNat := congrArg Int.toNat (sub_zero c)
  obtain ⟨o, ho⟩ : ∃ o, Loop.turns h lim fuel (Loop.start h m) = some o := by
    refine Loop.turns_unlimited hc hi ?_
    rwa [if_pos hr, hz]
  exact ⟨Loop.finish h o, by rw [run, ho, Option.map_some]⟩

lemma run_done_of_willing {c : ℤ} {fuel : ℕ} {o : Outcome Failure (Machine τ η) ℕ}
    (hc : lim.maxCycles = some c) (hr : m.run h lim fuel = some o)
    (hv : ∀ k, ∀ v ∈ (m.stage h lim k).verdict? h lim, v = ⟨false, false⟩)
    (hb : ∀ k e, ¬ (m.stage h lim k).Fails h lim e) : ∃ m', o = .done c.toNat m' := by
  cases o with
  | failed e m' =>
    obtain ⟨k, hk⟩ := (run_failed_iff hr).mp ⟨m', rfl⟩
    exact (hb k e hk).elim
  | done n m' =>
    obtain ⟨o, ho, hf⟩ := Option.map_eq_some_iff.mp hr
    cases o with
    | done u l =>
      cases hf
      exact ⟨_, congrArg (Outcome.done · _) (cycles_of_turns hc hv ho)⟩
    | failed e l => cases e <;> cases hf

/-- A run makes no cycle beyond its limit, and none once the window or the caller has called it off;
right before each cycle it asks whether to stop, and goes on only if it may. Its answer is the
number of cycles completed, and it fails by what one of its stages fails by. At no limited rate it
ends, and unless it is called off or a stage fails, after as many cycles as it may make. -/
theorem run_heeds (h : Host τ η) (lim : Limits τ η) (m : Machine τ η) :
    (∀ c, lim.maxCycles = some c → ∀ k, (m.begun h lim k : ℤ) ≤ max 0 c) ∧
    (∀ j k v, (m.stage h lim j).verdict? h lim = some v → v.answer = true → j ≤ k →
      (m.stage h lim k).isCycle = false) ∧
    (∀ k budget left l, m.stage h lim k = .cycle budget left l →
      ∃ j l₀, k = j + 1 ∧ m.stage h lim j = .ask budget (left + 1) l₀ ∧
        l₀.cancelled lim = .done false l) ∧
    (∀ fuel o, m.run h lim fuel = some o →
      (∃ k e, m.stage h lim k = .ended e ∧ o = Loop.finish h e ∧
        ∀ n m', o = .done n m' → m.completed h lim k = n) ∧
      ∀ e, (∃ m', o = .failed e m') ↔ ∃ k, (m.stage h lim k).Fails h lim e) ∧
    ∀ c fuel, lim.maxCycles = some c → m.schedule.instructions = none → c.toNat + 1 < fuel →
      ∃ o, m.run h lim fuel = some o ∧
        ((∀ k, ∀ v ∈ (m.stage h lim k).verdict? h lim, v = ⟨false, false⟩) →
          (∀ k e, ¬ (m.stage h lim k).Fails h lim e) → ∃ m', o = .done c.toNat m') := by
  refine ⟨fun c hc k => ?_, fun j k v hv ha hk => ?_, fun k budget left l hl => ?_,
    fun fuel o hr => ?_, fun c fuel hc hu hf => ?_⟩
  · exact begun_le hc k
  · obtain rfl | hlt := hk.eq_or_lt
    · exact Stage.isCycle_of_verdict hv
    · refine Stage.isCycle_of_calledOff (calledOff_stage (j := j + 1) ?_ hlt)
      rw [stage_succ]
      exact Stage.calledOff_of_verdict hv ha
  · cases k with
    | zero => cases hl
    | succ j =>
      rw [stage_succ] at hl
      obtain ⟨l₀, hs, hc⟩ := Stage.of_next_eq_cycle hl
      exact ⟨j, l₀, rfl, hs, hc⟩
  · exact ⟨ended_of_run hr, fun e => run_failed_iff hr⟩
  · obtain ⟨o, ho⟩ := run_ends (h := h) hc hu hf
    exact ⟨o, ho, run_done_of_willing hc ho⟩

def circling (now : τ) (host : η) : Machine τ η where
  processor := .booted [0x12, 0x00]
  schedule := ⟨now, none, ⟨TimeScale.ofInt 60, TimeScale.inverse (TimeScale.ofInt 60), now⟩⟩
  host := host
  running := false
  frames := 0
  fault := none
  rom := none
  journal := .empty .error

def fourth : Limits ℚ (ScriptedHost ℚ) := ⟨none, some (ScriptedHost.verdict (.fromCall 4))⟩

theorem circling_heeds :
    (∀ k, ((circling (0 : ℚ) (0 : ℚ)).begun Host.byHand ⟨some 2, none⟩ k : ℤ) ≤ 2) ∧
      (∃ m', (circling (0 : ℚ) (0 : ℚ)).run Host.byHand ⟨some 2, none⟩ 4 = some (.done 2 m')) ∧
      (∀ k ≥ 12, ((circling 0 (.start 0 1 none false)).stage ScriptedHost.host fourth k).isCycle =
        false) ∧
      ∃ k e, (circling 0 (.start 0 1 none false)).stage ScriptedHost.host fourth k = .ended e ∧
        (circling 0 (.start 0 1 none false)).completed ScriptedHost.host fourth k = 1 := by
  have hn (s : Stage ℚ ℚ) : s.verdict? Host.byHand ⟨some 2, none⟩ = none := by
    cases s with
    | check l => exact ite_self none
    | ask budget left l =>
      cases left with
      | zero => rfl
      | succ left => exact ite_self none
    | _ => rfl
  obtain ⟨hb, -, -, hf, hu⟩ := run_heeds Host.byHand ⟨some 2, none⟩ (circling (0 : ℚ) (0 : ℚ))
  obtain ⟨-, hv, -, hd, -⟩ := run_heeds ScriptedHost.host fourth
    (circling 0 (.start 0 1 none false))
  refine ⟨hb 2 rfl, ?_, fun k hk => ?_, ?_⟩
  · have ha : ((circling (0 : ℚ) (0 : ℚ)).run Host.byHand ⟨some 2, none⟩ 4).map Outcome.answer =
        some (.ok 2) := by
      decide +kernel
    obtain ⟨o, ho, hdone⟩ := hu 2 4 rfl rfl (by decide)
    have hsound (k : ℕ) (e : Failure) : ¬ ((circling (0 : ℚ) (0 : ℚ)).stage Host.byHand
        ⟨some 2, none⟩ k).Fails Host.byHand ⟨some 2, none⟩ e := by
      intro hk
      obtain ⟨m', rfl⟩ := ((hf 4 o ho).2 e).mpr ⟨k, hk⟩
      rw [ho] at ha
      cases ha
    obtain ⟨m', rfl⟩ := hdone (fun k => by rw [hn]; nofun) hsound
    exact ⟨m', ho⟩
  · have hs : ((circling 0 (.start 0 1 none false)).stage ScriptedHost.host fourth 11).verdict?
        ScriptedHost.host fourth = some ⟨true, false⟩ := by
      decide +kernel
    exact hv 11 k _ hs rfl (by omega)
  · have ha : ((circling 0 (.start 0 1 none false)).run ScriptedHost.host fourth 9).map
        Outcome.answer = some (.ok 1) := by
      decide +kernel
    obtain ⟨o, ho, hv⟩ := Option.map_eq_some_iff.mp ha
    obtain ⟨m', rfl⟩ := Outcome.answer_eq_ok.mp hv
    obtain ⟨⟨k, e, hk, -, hn⟩, -⟩ := hd 9 _ ho
    exact ⟨k, e, hk, hn 1 m' rfl⟩

def late : Machine Float (ScriptedHost Float) :=
  let interval := Float.ofBits 0x7FC0000000000000
  circling interval (.start interval interval none false)

/-- The readings of a run of one cycle are all finite, and still the time between two of them, in
sixtieths of a second, is not. -/
theorem late_unfinished :
    late.schedule.instructions = none ∧ late.host.window.isNone ∧
      (∀ k ≤ 4, ((fun s => (ScriptedHost.host.readClock s).2)^[k] late.host).now.isFinite) ∧
      (∀ fuel m', late.run ScriptedHost.host ⟨some 1, none⟩ fuel ≠ some (.done 1 m')) ∧
      ∃ m', late.run ScriptedHost.host ⟨some 1, none⟩ 1 = some (.failed (.clock .infinite) m') ∧
        m'.fault.isNone := by
  have ha : (Loop.turn ScriptedHost.host ⟨some 1, none⟩
      (Loop.start ScriptedHost.host late)).answer = .error (.clock .infinite) := by
    decide +kernel
  obtain ⟨l, hl⟩ := Outcome.answer_eq_error.mp ha
  have hr (fuel : ℕ) : late.run ScriptedHost.host ⟨some 1, none⟩ (fuel + 1) =
      some (.failed (.clock .infinite) (Loop.cleanUp ScriptedHost.host l.machine)) := by
    rw [run, Loop.turns, hl]
    rfl
  refine ⟨rfl, rfl, by decide +kernel, fun fuel m' ho => ?_, _, hr 0, ?_⟩
  · cases fuel with
    | zero => cases ho
    | succ fuel =>
      rw [hr] at ho
      cases ho
  · have hf : (late.run ScriptedHost.host ⟨some 1, none⟩ 1).map (·.state.fault) = some none := by
      decide +kernel
    rw [hr 0] at hf
    cases hm : (Loop.cleanUp ScriptedHost.host l.machine).fault with
    | none => rfl
    | some f => simp [Outcome.state, hm] at hf

end Machine

end ChipEight
