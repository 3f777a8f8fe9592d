import ChipEight.Proofs.Machine.Stages

/-!
What a run fails by. A stage fails by a question or a picture that fails, by a fault of the
program, or by a time that has no integer part; and a run fails exactly if one of its stages does.
-/

namespace ChipEight

variable {τ η : Type}

section Parts

variable [TimeScale τ] {now : τ} {e : NotFinite}

lemma Timer.tick_eq_failed_iff {t t' : Timer τ} {elapsed : τ} :
    t.tick elapsed = .failed e t' ↔ TimeScale.le elapsed TimeScale.zero = false ∧
      TimeScale.truncate ((t.accumulator + elapsed) * frequency + TimeScale.epsilon) = .error e ∧
      t' = { t with accumulator := t.accumulator + elapsed } := by
  rw [tick]
  cases TimeScale.le elapsed TimeScale.zero with
  | true => simp
  | false =>
    cases ht : TimeScale.truncate ((t.accumulator + elapsed) * frequency + TimeScale.epsilon) with
    | error e' => simp [ht, eq_comm]
    | ok n => by_cases hn : n = 0 <;> simp [ht, hn]

lemma Cadence.due_eq_error_iff {c : Cadence τ} :
    c.due now = .error e ↔
      TimeScale.truncate ((now - c.reference) * c.frequency + TimeScale.epsilon) = .error e := by
  rw [due]
  cases TimeScale.truncate ((now - c.reference) * c.frequency + TimeScale.epsilon) with
  | error e' => simp
  | ok n => by_cases hn : n ≤ 0 <;> simp [hn]

namespace Schedule

variable {s : Schedule τ}

lemma instructionsDue_eq_error_iff :
    s.instructionsDue now = .error e ↔ ∃ c, s.instructions = some c ∧ c.due now = .error e := by
  rw [instructionsDue]
  cases s.instructions with
  | none => simp
  | some c => cases hd : c.due now <;> simp [hd]

lemma frameDue_eq_error_iff : s.frameDue now = .error e ↔ s.frames.due now = .error e := by
  rw [frameDue]
  cases s.frames.due now <;> simp

end Schedule

end Parts

namespace Loop

def Unanswered (lim : Limits τ η) (l : Loop τ η) (e : Registers.BadRegister) : Prop :=
  l.machine.running = true ∧
    ∃ ask ∈ lim.shouldStop, (ask l.machine.processor l.machine.host).1 = .error e

def now (h : Host τ η) (l : Loop τ η) : τ := (h.readClock l.machine.host).1

variable {h : Host τ η} {lim : Limits τ η} {l : Loop τ η} {e : Failure}

lemma cancelled_failed_iff :
    (∃ l', l.cancelled lim = .failed e l') ↔ ∃ e', e = .question e' ∧ l.Unanswered lim e' := by
  rw [cancelled]
  cases hr : l.machine.running with
  | false => simp [Unanswered, hr]
  | true =>
    cases hs : lim.shouldStop with
    | none => simp [Unanswered, hs]
    | some ask =>
      rcases ha : ask l.machine.processor l.machine.host with ⟨a | v, host⟩
      · simp [Unanswered, hr, hs, ha, eq_comm]
      · simp [Unanswered, hs, ha]

lemma showScreen_error_iff {m : Machine τ η} {e : Storage.Exhausted} :
    showScreen h m = .error e ↔ h.hasWindow m.host = true ∧ m.processor.screen.dirty = true ∧
      h.present m.processor.screen m.host = .error e := by
  rw [showScreen]
  cases h.hasWindow m.host <;> cases m.processor.screen.dirty <;>
    cases h.present m.processor.screen m.host <;> simp

end Loop

variable [TimeScale τ] {h : Host τ η} {lim : Limits τ η} {e : Failure}

lemma Machine.tick_failed_iff {m : Machine τ η} :
    (∃ m', m.tick h = .failed e m') ↔
      (∃ c t, e = .clock c ∧ m.processor.timer.tick
          ((h.readClock m.host).1 - m.schedule.countedTo) = .failed c t) ∨
        ∃ n t f p, e = .fault f ∧ m.processor.timer.tick
            ((h.readClock m.host).1 - m.schedule.countedTo) = .done n t ∧
          { m.processor with timer := t }.cycle = .failed f p := by
  simp only [tick, Schedule.advance]
  cases m.processor.timer.tick ((h.readClock m.host).1 - m.schedule.countedTo) with
  | failed c t => simp [eq_comm]
  | done n t =>
    simp only [cycle, report]
    cases hc : { m.processor with timer := t }.cycle with
    | done i p => simp [hc]
    | failed f p => simp [hc, eq_comm (b := e)]

namespace Stage

/-- What a stage fails by, if it does. The times are those of the machine at this stage, to which
the counters bring along what earlier cycles, and earlier runs, have left them. -/
inductive Fails (h : Host τ η) (lim : Limits τ η) : Stage τ η → Failure → Prop
  | check {l e} : l.Unanswered lim e → Fails h lim (check l) (.question e)
  | ask {budget left l e} : l.Unanswered lim e →
      Fails h lim (ask budget (left + 1) l) (.question e)
  | grant {l c e} : l.machine.schedule.instructions = some c →
      TimeScale.truncate ((l.now h - c.reference) * c.frequency + TimeScale.epsilon) = .error e →
      Fails h lim (grant l) (.clock e)
  | counters {budget left l e} :
      TimeScale.le (l.now h - l.machine.schedule.countedTo) TimeScale.zero = false →
      TimeScale.truncate ((l.machine.processor.timer.accumulator +
          (l.now h - l.machine.schedule.countedTo)) * Timer.frequency + TimeScale.epsilon) =
        .error e →
      Fails h lim (cycle budget left l) (.clock e)
  | fault {budget left l n timer f p} :
      l.machine.processor.timer.tick (l.now h - l.machine.schedule.countedTo) = .done n timer →
      { l.machine.processor with timer }.cycle = .failed f p →
      Fails h lim (cycle budget left l) (.fault f)
  | rest {budget l e} :
      TimeScale.truncate ((l.now h - l.machine.schedule.frames.reference) *
        l.machine.schedule.frames.frequency + TimeScale.epsilon) = .error e →
      Fails h lim (rest budget l) (.clock e)
  | frame {l e} : h.hasWindow l.machine.host = true → l.machine.processor.screen.dirty = true →
      h.present l.machine.processor.screen l.machine.host = .error e →
      Fails h lim (frame l) (.picture e)

variable {s : Stage τ η} {l : Loop τ η}

lemma fails_of_tick {budget left : ℕ} {m : Machine τ η} (ht : l.machine.tick h = .failed e m) :
    (cycle budget left l).Fails h lim e := by
  obtain ⟨c, t, rfl, hc⟩ | ⟨n, t, f, p, rfl, hd, hf⟩ := Machine.tick_failed_iff.mp ⟨m, ht⟩
  · obtain ⟨hle, hx, -⟩ := Timer.tick_eq_failed_iff.mp hc
    exact .counters hle hx
  · exact .fault hd hf

lemma fails_of_next (hn : next h lim s = ended (.failed e l)) :
    s = ended (.failed e l) ∨ s.Fails h lim e := by
  revert hn
  fun_cases next h lim s with
  | case3 l₀ e' l' hc =>
    intro hn
    cases hn
    obtain ⟨e, rfl, hu⟩ := Loop.cancelled_failed_iff.mp ⟨l, hc⟩
    exact .inr (.check hu)
  | case9 budget left l₀ e' l' hc =>
    intro hn
    cases hn
    obtain ⟨e, rfl, hu⟩ := Loop.cancelled_failed_iff.mp ⟨l, hc⟩
    exact .inr (.ask hu)
  | case6 l₀ now host hk e' hd =>
    intro hn
    cases hn
    obtain ⟨c, hc, hx⟩ := Schedule.instructionsDue_eq_error_iff.mp hd
    refine .inr (.grant hc ?_)
    rw [Loop.now, hk]
    exact Cadence.due_eq_error_iff.mp hx
  | case12 budget left l₀ e' m hm =>
    intro hn
    cases hn
    exact .inr (fails_of_tick hm)
  | case14 budget l₀ now host hk e' hd =>
    intro hn
    cases hn
    refine .inr (.rest ?_)
    rw [Loop.now, hk]
    exact Cadence.due_eq_error_iff.mp (Schedule.frameDue_eq_error_iff.mp hd)
  | case18 l₀ e' hs =>
    intro hn
    cases hn
    obtain ⟨hw, hd, hp⟩ := Loop.showScreen_error_iff.mp hs
    exact .inr (.frame hw hd hp)
  | case20 o => exact .inl
  | _ =>
    intro hn
    cases hn

lemma Fails.next (hb : s.Fails h lim e) : ∃ l, s.next h lim = ended (.failed e l) := by
  cases hb with
  | check hu | ask hu =>
    obtain ⟨l, hc⟩ := Loop.cancelled_failed_iff.mpr ⟨_, rfl, hu⟩
    exact ⟨l, by rw [Stage.next, hc]⟩
  | grant hc hx =>
    have hd := Schedule.instructionsDue_eq_error_iff.mpr ⟨_, hc, Cadence.due_eq_error_iff.mpr hx⟩
    rw [Loop.now] at hd
    exact ⟨_, by simp only [Stage.next, hd]; rfl⟩
  | counters hle hx =>
    obtain ⟨m, ht⟩ := Machine.tick_failed_iff.mpr
      (.inl ⟨_, _, rfl, Timer.tick_eq_failed_iff.mpr ⟨hle, hx, rfl⟩⟩)
    exact ⟨_, by rw [Stage.next, ht]⟩
  | fault hd hf =>
    obtain ⟨m, ht⟩ := Machine.tick_failed_iff.mpr (.inr ⟨_, _, _, _, rfl, hd, hf⟩)
    exact ⟨_, by rw [Stage.next, ht]⟩
  | rest hx =>
    have hd := Schedule.frameDue_eq_error_iff.mpr (Cadence.due_eq_error_iff.mpr hx)
    rw [Loop.now] at hd
    exact ⟨_, by simp only [Stage.next, hd]; rfl⟩
  | frame hw hd hp =>
    have hs := Loop.showScreen_error_iff.mpr ⟨hw, hd, hp⟩
    exact ⟨_, by rw [Stage.next, hs]⟩

lemma Fails.explained {P : η → Prop} (hb : s.Fails h lim e) (hl : lim.shouldStop = none)
    (hp : ∀ f d, P d → ∃ d', h.present f d = .ok d') (hs : P s.loop.machine.host) :
    (∃ f, e = .fault f) ∨ ∃ c, e = .clock c := by
  cases hb with
  | check hu | ask hu =>
    obtain ⟨-, ask, ha, -⟩ := hu
    simp [hl] at ha
  | fault => exact .inl ⟨_, rfl⟩
  | frame _ _ he =>
    obtain ⟨d, hd⟩ := hp _ _ hs
    cases hd.symm.trans he
  | _ => exact .inr ⟨_, rfl⟩

end Stage

omit [TimeScale τ] in
lemma Loop.finish_failed_iff {o : Outcome Failure (Loop τ η) Unit} :
    (∃ m, finish h o = .failed e m) ↔ ∃ l, o = .failed e l := by
  cases o with
  | done u l => simp [finish]
  | failed e' l => cases e' <;> simp [finish]

namespace Machine

variable {m m' : Machine τ η} {fuel k : ℕ}

lemma exists_fails {l : Loop τ η} (hs : m.stage h lim k = .ended (.failed e l)) :
    ∃ j, (m.stage h lim j).Fails h lim e := by
  induction k with
  | zero => cases hs
  | succ k ih =>
    rw [stage_succ] at hs
    obtain he | hb := Stage.fails_of_next hs
    · exact ih he
    · exact ⟨k, hb⟩

lemma run_failed_iff {o : Outcome Failure (Machine τ η) ℕ} (hr : m.run h lim fuel = some o) :
    (∃ m', o = .failed e m') ↔ ∃ k, (m.stage h lim k).Fails h lim e := by
  obtain ⟨o, ho, rfl⟩ := Option.map_eq_some_iff.mp hr
  obtain ⟨i, hi⟩ := stage_of_turns ho
  rw [Loop.finish_failed_iff]
  constructor
  · rintro ⟨l, rfl⟩
    exact exists_fails hi
  · rintro ⟨k, hb⟩
    obtain ⟨l, hl⟩ := hb.next
    rw [← stage_succ] at hl
    -- of two stages at which a run is over, the later one is as the earlier one left it
    obtain hik | hki := le_total i (k + 1)
    · rw [stage_of_ended hi hik] at hl
      cases hl
      exact ⟨l, rfl⟩
    · rw [stage_of_ended hl hki] at hi
      cases hi
      exact ⟨l, rfl⟩

lemma run_failed {P : η → Prop} (hl : lim.shouldStop = none) (hk : h.Keeps lim P)
    (hp : ∀ f d, P d → ∃ d', h.present f d = .ok d' ∧ P d') (hm : P m.host)
    (hr : m.run h lim fuel = some (.failed e m')) :
    (∃ f, e = .fault f) ∨ ∃ c k, e = .clock c ∧ (m.stage h lim k).Fails h lim (.clock c) := by
  have hf : h.KeepsShown P := by
    intro f d d' hd he
    obtain ⟨d'', he', hd'⟩ := hp f d hd
    cases he.symm.trans he'
    exact hd'
  obtain ⟨k, hb⟩ := (run_failed_iff hr).mp ⟨m', rfl⟩
  obtain ⟨f, rfl⟩ | ⟨c, rfl⟩ := hb.explained hl (fun f d hd => (hp f d hd).imp fun _ => And.left)
    (keeps_stage hk hf hm k)
  · exact .inl ⟨f, rfl⟩
  · exact .inr ⟨c, k, rfl, hb⟩

end Machine

end ChipEight
