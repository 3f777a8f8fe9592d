import ChipEight.Machine.Run
import Mathlib.Tactic

namespace ChipEight

variable {τ η : Type}

section Host

variable (h : Host τ η) (s : η)

def Host.silence : η := if h.hasSound s then h.setSound false s else s

def Host.shut : List Report × η :=
  if h.hasWindow (h.silence s) then h.closeWindow (h.silence s) else ([], h.silence s)

end Host

namespace Outcome

variable {ε ε' σ α : Type}

def mapError (f : ε → ε') : Outcome ε σ α → Outcome ε' σ α
  | done a s => done a s
  | failed e s => failed (f e) s

lemma state_mapError (f : ε → ε') (o : Outcome ε σ α) : (o.mapError f).state = o.state := by
  cases o <;> rfl

end Outcome

namespace Machine

variable (m : Machine τ η)

lemma applyKeys_eq (es : List KeyEvent) :
    ∃ keypad journal,
      m.applyKeys es = { m with processor := { m.processor with keypad }, journal } := by
  induction es generalizing m with
  | nil => exact ⟨m.processor.keypad, m.journal, rfl⟩
  | cons e es ih =>
    obtain ⟨keypad, journal, he⟩ := ih (m.applyKey e)
    exact ⟨keypad, journal, he⟩

lemma cycle_state : ∃ processor journal, m.cycle.state = { m with processor, journal } := by
  rw [cycle]
  dsimp only [report]
  cases m.processor.cycle with
  | failed f p => exact ⟨p, _, rfl⟩
  | done i p => exact ⟨p, _, rfl⟩

lemma tick_cases [TimeScale τ] (h : Host τ η) :
    ∃ timer m', m' = { m with
        host := (h.readClock m.host).2
        schedule := { m.schedule with countedTo := (h.readClock m.host).1 }
        processor := { m.processor with timer } } ∧
      ((∃ e, m.tick h = .failed (.clock e) m') ∨ m.tick h = m'.cycle.mapError .fault) := by
  rcases hc : h.readClock m.host with ⟨now, host⟩
  simp only [tick, hc, Schedule.advance]
  cases m.processor.timer.tick (now - m.schedule.countedTo) with
  | failed e t => exact ⟨t, _, rfl, .inl ⟨e, rfl⟩⟩
  | done n t =>
    refine ⟨t, _, rfl, .inr ?_⟩
    dsimp only
    cases cycle _ <;> rfl

lemma tick_state [TimeScale τ] (h : Host τ η) :
    ∃ processor journal, (m.tick h).state =
      { m with
        processor, journal
        host := (h.readClock m.host).2
        schedule := { m.schedule with countedTo := (h.readClock m.host).1 } } := by
  obtain ⟨timer, m', rfl, ⟨e, ht⟩ | ht⟩ := m.tick_cases h
  all_goals rw [ht]
  · exact ⟨{ m.processor with timer }, m.journal, rfl⟩
  · rw [Outcome.state_mapError]
    exact cycle_state _

end Machine

namespace Loop

section Window

variable (h : Host τ η) (m : Machine τ η)

def windowVerdict? : Option Verdict :=
  if h.hasWindow m.host then
    match (h.poll m.host).1 with
    | .interrupted => some ⟨true, true⟩
    | .events _ goOn => some ⟨!goOn, false⟩
  else none

lemma pollWindow_cases :
    (windowVerdict? h m = none ∧ pollWindow h m = (false, m)) ∨
      (windowVerdict? h m = some ⟨true, true⟩ ∧
        pollWindow h m = (true, { m with host := (h.poll m.host).2 })) ∨
      ∃ goOn keypad journal, windowVerdict? h m = some ⟨!goOn, false⟩ ∧
        pollWindow h m = (false,
          { m with
            processor := { m.processor with keypad }
            journal
            host := (h.poll m.host).2
            running := m.running && goOn }) := by
  rw [pollWindow, windowVerdict?]
  cases hw : h.hasWindow m.host with
  | false => simp
  | true =>
    rcases hp : h.poll m.host with ⟨poll, host⟩
    cases poll with
    | interrupted => simp
    | events keys goOn =>
      obtain ⟨keypad, journal, hk⟩ := Machine.applyKeys_eq { m with host } keys
      refine .inr (.inr ⟨goOn, keypad, journal, rfl, ?_⟩)
      cases goOn <;> simp [hk, Machine.stop]

lemma pollWindow_state :
    ∃ keypad journal host running, (pollWindow h m).2 =
      { m with processor := { m.processor with keypad }, journal, host, running } := by
  obtain ⟨-, he⟩ | ⟨-, he⟩ | ⟨goOn, keypad, journal, -, he⟩ := pollWindow_cases h m
  all_goals rw [he]
  · exact ⟨m.processor.keypad, m.journal, m.host, m.running, rfl⟩
  · exact ⟨m.processor.keypad, m.journal, _, m.running, rfl⟩
  · exact ⟨keypad, journal, _, _, rfl⟩

lemma showScreen_ok {m' : Machine τ η} (hs : showScreen h m = .ok m') :
    m' = m ∧ ¬ (h.hasWindow m.host = true ∧ m.processor.screen.dirty = true) ∨
      h.hasWindow m.host = true ∧ m.processor.screen.dirty = true ∧
        ∃ host, h.present m.processor.screen m.host = .ok host ∧
          m' = { m with
            host
            processor := { m.processor with screen := m.processor.screen.markShown } } := by
  rw [showScreen] at hs
  split at hs
  · rename_i hd
    rw [Bool.and_eq_true] at hd
    split at hs
    · cases hs
    · rename_i host hp
      cases hs
      exact .inr ⟨hd.1, hd.2, host, hp, rfl⟩
  · rename_i hd
    rw [Bool.and_eq_true] at hd
    cases hs
    exact .inl ⟨rfl, hd⟩

lemma endFrame_eq :
    ∃ journal, endFrame h m =
      { m with
        journal
        host := if h.hasSound m.host then h.setSound m.processor.timer.sounding m.host else m.host
        frames := m.frames + 1 } := by
  rw [endFrame]
  split <;> split <;> exact ⟨_, rfl⟩

lemma cleanUp_eq :
    cleanUp h m = { m with
      running := false
      host := (h.shut m.host).2
      journal := m.journal.add (h.shut m.host).1 } := by
  have hj : m.journal.add [] = m.journal := rfl
  rw [cleanUp, Host.shut, Host.silence]
  split <;> split <;> simp_all [Machine.stop, Machine.report]

variable (o : Outcome Failure (Loop τ η) Unit)

lemma finish_state :
    ∃ fault journal, (finish h o).state =
      { o.state.machine with
        running := false, fault, journal, host := (h.shut o.state.machine.host).2 } := by
  cases o with
  | done u l =>
    rw [finish, cleanUp_eq]
    exact ⟨_, _, rfl⟩
  | failed e l =>
    cases e with
    | fault f =>
      rw [finish, cleanUp_eq]
      exact ⟨_, _, rfl⟩
    | _ => exact ⟨_, _, cleanUp_eq h l.machine⟩

end Window

section Question

variable (lim : Limits τ η) (l : Loop τ η)

def spent : Bool := lim.maxCycles.any (· ≤ (l.cycles : ℤ))

def verdict? : Option Verdict :=
  if l.machine.running then
    lim.shouldStop.bind fun ask => (ask l.machine.processor l.machine.host).1.toOption
  else none

lemma spent_eq_false_iff : l.spent lim = false ↔ ∀ c ∈ lim.maxCycles, (l.cycles : ℤ) < c := by
  rw [spent]
  cases lim.maxCycles <;> simp

lemma cancelled_cases :
    (l.machine.running = false ∧ l.cancelled lim = .done true l) ∨
      (l.machine.running = true ∧ l.verdict? lim = none ∧
        (l.cancelled lim = .done (l.spent lim) l ∨
          ∃ e host, l.cancelled lim =
            .failed (.question e) { l with machine := { l.machine with host } })) ∨
      (l.machine.running = true ∧ ∃ v host, l.verdict? lim = some v ∧
        l.cancelled lim = .done (v.answer || l.spent lim)
          { l with machine := { l.machine with host, running := !v.answer && !v.stopped } }) := by
  rw [cancelled, verdict?]
  cases hr : l.machine.running with
  | false => simp
  | true =>
    cases hs : lim.shouldStop with
    | none => simp [spent]
    | some ask =>
      rcases ha : ask l.machine.processor l.machine.host with ⟨a, host⟩
      cases a with
      | error e => simp [hr, ha, Except.toOption]
      | ok v => simp [ha, Except.toOption, spent]

lemma cancelled_state :
    ∃ host running, (l.cancelled lim).state =
      { l with machine := { l.machine with host, running } } := by
  obtain ⟨-, he⟩ | ⟨-, -, he | ⟨e, host, he⟩⟩ | ⟨-, v, host, -, he⟩ := cancelled_cases lim l
  all_goals rw [he]
  · exact ⟨_, _, rfl⟩
  · exact ⟨_, _, rfl⟩
  · exact ⟨host, _, rfl⟩
  · exact ⟨host, _, rfl⟩

end Question

section Turn

variable [TimeScale τ] (h : Host τ η) (lim : Limits τ η) (l : Loop τ η)

def frame : Outcome Failure (Loop τ η) Bool :=
  match showScreen h l.machine with
  | .error e => .failed (.picture e) l
  | .ok m => .done true { l with machine := endFrame h m }

variable {h l} in
lemma rest_of_due {budget : ℕ} {schedule : Schedule τ}
    (hd : l.machine.schedule.frameDue (h.readClock l.machine.host).1 = .ok (true, schedule)) :
    rest h budget l = frame h { l with machine :=
      { l.machine with host := (h.readClock l.machine.host).2, schedule := schedule } } := by
  simp only [rest, hd]
  rfl

def work (budget : ℕ) : Outcome Failure (Loop τ η) Bool :=
  match batch h lim budget l with
  | .failed e l => .failed e l
  | .done _ l => rest h budget l

end Turn

end Loop

end ChipEight
