import ChipEight.Machine.Run
import ChipEight.Proofs.Processor.Shown

namespace ChipEight

variable {τ η θ : Type} [TimeScale τ]

def Processor.beat (p : Processor τ) (since now : τ) :
    Outcome Failure (Processor τ × τ) (Option Instruction) :=
  match p.timer.tick (now - since) with
  | .failed e t => .failed (.clock e) ({ p with timer := t }.shown, now)
  | .done _ t =>
    match { p with timer := t }.cycle.mapState shown with
    | .failed f p => .failed (.fault f) (p, now)
    | .done i p => .done i (p, now)

lemma Processor.beat_shown (p : Processor τ) (since now : τ) :
    p.shown.beat since now = p.beat since now := by
  have ht : p.shown.timer = p.timer := rfl
  rw [beat, beat, ht]
  cases p.timer.tick (now - since) with
  | failed e t => rfl
  | done n t =>
    have hs : ({ p.shown with timer := t } : Processor τ) = { p with timer := t }.shown := rfl
    dsimp only
    rw [hs, cycle_shown]

namespace Schedule

variable {s t : Schedule τ} {now : τ}

lemma countedTo_of_instructionsDue {n : ℕ} (hd : s.instructionsDue now = .ok (n, t)) :
    t.countedTo = s.countedTo := by
  rw [instructionsDue] at hd
  split at hd
  · cases hd
    rfl
  · split at hd
    · cases hd
    · cases hd
      rfl

lemma countedTo_of_frameDue {due : Bool} (hd : s.frameDue now = .ok (due, t)) :
    t.countedTo = s.countedTo := by
  rw [frameDue] at hd
  split at hd
  · cases hd
  · cases hd
    rfl

end Schedule

namespace Machine

omit [TimeScale τ] in
/-- The processor, but for the note whether its screen was shown, and the reading up to which its
counters have counted. -/
def view (m : Machine τ η) : Processor τ × τ := (m.processor.shown, m.schedule.countedTo)

omit [TimeScale τ] in
lemma view_schedule (m : Machine τ η) {s : Schedule τ} (host : η)
    (hs : s.countedTo = m.schedule.countedTo) :
    ({ m with host, schedule := s } : Machine τ η).view = m.view :=
  congrArg (Prod.mk m.processor.shown) hs

omit [TimeScale τ] in
lemma view_applyKey (m : Machine τ η) (e : KeyEvent) :
    (m.applyKey e).view = ({ m.view.1 with keypad := m.view.1.keypad.apply e }, m.view.2) := rfl

omit [TimeScale τ] in
lemma view_applyKeys_congr {m : Machine τ η} {q : Machine τ θ} (hv : m.view = q.view)
    (es : List KeyEvent) : (m.applyKeys es).view = (q.applyKeys es).view := by
  induction es generalizing m q with
  | nil => exact hv
  | cons e es ih =>
    refine ih (m := m.applyKey e) (q := q.applyKey e) ?_
    rw [view_applyKey, view_applyKey, hv]

lemma view_tick (h : Host τ η) (m : Machine τ η) :
    (m.tick h).mapState view = m.processor.beat m.schedule.countedTo (h.readClock m.host).1 := by
  rcases hc : h.readClock m.host with ⟨now, host⟩
  simp only [tick, hc, Schedule.advance, Processor.beat]
  cases m.processor.timer.tick (now - m.schedule.countedTo) with
  | failed e t => rfl
  | done n t =>
    dsimp only
    rw [cycle]
    dsimp only [report]
    cases ({ m.processor with timer := t } : Processor τ).cycle <;> rfl

theorem view_tick_congr {h : Host τ η} {k : Host τ θ} {m : Machine τ η} {q : Machine τ θ}
    (hv : m.view = q.view) (hc : (h.readClock m.host).1 = (k.readClock q.host).1) :
    (m.tick h).mapState view = (q.tick k).mapState view := by
  have hp : m.processor.shown = q.processor.shown := congrArg Prod.fst hv
  have hs : m.schedule.countedTo = q.schedule.countedTo := congrArg Prod.snd hv
  rw [view_tick, view_tick, hc, hs]
  -- the processors may differ in whether their screens were shown, which no beat looks at
  rw [← Processor.beat_shown, hp, Processor.beat_shown]

end Machine

namespace Loop

open Machine

omit [TimeScale τ] in
lemma view_showScreen {h : Host τ η} {m m' : Machine τ η} (hs : showScreen h m = .ok m') :
    m'.view = m.view := by
  rw [showScreen] at hs
  split at hs
  · split at hs
    · cases hs
    · cases hs
      rfl
  · cases hs
    rfl

omit [TimeScale τ] in
lemma view_endFrame (h : Host τ η) (m : Machine τ η) : (endFrame h m).view = m.view := by
  rw [endFrame]
  split <;> split <;> rfl

omit [TimeScale τ] in
lemma view_cleanUp (h : Host τ η) (m : Machine τ η) : (cleanUp h m).view = m.view := by
  rw [cleanUp]
  split <;> split <;> rfl

end Loop

namespace Machine

variable {h : Host τ η} {lim : Limits τ η} {fuel n : ℕ} {m m' : Machine τ η} {f : Fault}

lemma run_done (hr : m.run h lim fuel = some (.done n m')) :
    ∃ l, Loop.turns h lim fuel (Loop.start h m) = some (.done () l) ∧ l.cycles = n ∧
      m'.view = l.machine.view := by
  obtain ⟨o, ho, hf⟩ := Option.map_eq_some_iff.mp hr
  cases o with
  | failed e l => cases e <;> cases hf
  | done _ l =>
    cases hf
    exact ⟨l, ho, rfl, Loop.view_cleanUp h l.machine⟩

lemma run_fault (hr : m.run h lim fuel = some (.failed (.fault f) m')) :
    ∃ l, Loop.turns h lim fuel (Loop.start h m) = some (.failed (.fault f) l) ∧
      m'.view = l.machine.view := by
  obtain ⟨o, ho, hf⟩ := Option.map_eq_some_iff.mp hr
  cases o with
  | done _ l => cases hf
  | failed e l =>
    cases e with
    | fault g =>
      cases hf
      exact ⟨l, ho, Loop.view_cleanUp h _⟩
    | _ => cases hf

end Machine

end ChipEight
