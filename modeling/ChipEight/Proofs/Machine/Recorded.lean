import ChipEight.Proofs.Machine.Stages
import ChipEight.Proofs.Processor.Shown

namespace ChipEight

variable {τ η : Type}

inductive Call where
  | poll
  | present (frame : Framebuffer)
  | close
  | sound (on : Bool)
  deriving DecidableEq

structure Recorded (η : Type) where
  host : η
  /-- Oldest first. -/
  calls : List Call

def Recorded.note (s : Recorded η) (c : Call) (host : η) : Recorded η := ⟨host, s.calls ++ [c]⟩

def Host.recorded (h : Host τ η) : Host τ (Recorded η) where
  readClock s := ((h.readClock s.host).1, { s with host := (h.readClock s.host).2 })
  sleep t s := { s with host := h.sleep t s.host }
  hasWindow s := h.hasWindow s.host
  poll s := ((h.poll s.host).1, s.note .poll (h.poll s.host).2)
  present f s := (h.present f s.host).map (s.note (.present f))
  closeWindow s := ((h.closeWindow s.host).1, s.note .close (h.closeWindow s.host).2)
  hasSound s := h.hasSound s.host
  setSound on s := s.note (.sound on) (h.setSound on s.host)

lemma Host.shut_recorded (h : Host τ η) (s : Recorded η) :
    (h.recorded.shut s).1 = (h.shut s.host).1 ∧ (h.recorded.shut s).2.host = (h.shut s.host).2 := by
  have hs : (h.recorded.silence s).host = h.silence s.host := apply_ite Recorded.host _ _ _
  have hw : h.recorded.hasWindow (h.recorded.silence s) = h.hasWindow (h.silence s.host) := by
    rw [← hs]
    rfl
  rw [shut, shut, hw, ← hs]
  split <;> exact ⟨rfl, rfl⟩

def Limits.recorded (lim : Limits τ η) : Limits τ (Recorded η) where
  maxCycles := lim.maxCycles
  shouldStop := lim.shouldStop.map fun ask p s =>
    ((ask p s.host).1, { s with host := (ask p s.host).2 })

namespace Machine

def recorded (m : Machine τ η) : Machine τ (Recorded η) := { m with host := ⟨m.host, []⟩ }

def bare (m : Machine τ (Recorded η)) : Machine τ η := { m with host := m.host.host }

variable (m : Machine τ (Recorded η))

lemma bare_applyKeys (es : List KeyEvent) : (m.applyKeys es).bare = m.bare.applyKeys es := by
  induction es generalizing m with
  | nil => rfl
  | cons e es ih => exact ih (m.applyKey e)

lemma bare_tick [TimeScale τ] (h : Host τ η) :
    (m.tick h.recorded).mapState bare = m.bare.tick h := by
  have hc : h.recorded.readClock m.host =
    ((h.readClock m.host.host).1, { m.host with host := (h.readClock m.host.host).2 }) := rfl
  have hb : m.bare.host = m.host.host := rfl
  have hp : m.bare.processor = m.processor := rfl
  have hs : m.bare.schedule = m.schedule := rfl
  simp only [tick, hc, hb, hp, hs]
  cases m.schedule.advance m.processor.timer (h.readClock m.host.host).1 with
  | failed e r => rfl
  | done n r =>
    dsimp only [cycle, report]
    cases Processor.cycle _ <;> rfl

end Machine

namespace Loop

def bare (l : Loop τ (Recorded η)) : Loop τ η := ⟨l.machine.bare, l.cycles⟩

variable (h : Host τ η) (lim : Limits τ η) (l : Loop τ (Recorded η)) (m : Machine τ (Recorded η))

lemma bare_pollWindow :
    ((pollWindow h.recorded m).1, (pollWindow h.recorded m).2.bare) = pollWindow h m.bare := by
  have hw : h.recorded.hasWindow m.host = h.hasWindow m.bare.host := rfl
  have hp : h.recorded.poll m.host =
    ((h.poll m.bare.host).1, m.host.note .poll (h.poll m.bare.host).2) := rfl
  rw [pollWindow, pollWindow, hw, hp]
  cases h.hasWindow m.bare.host with
  | false => rfl
  | true =>
    rcases h.poll m.bare.host with ⟨poll, host⟩
    cases poll with
    | interrupted => rfl
    | events keys goOn =>
      have hk := Machine.bare_applyKeys { m with host := m.host.note .poll host } keys
      cases goOn
      · exact congrArg (fun q : Machine τ η => (false, q.stop)) hk
      · exact congrArg (Prod.mk false) hk

lemma bare_cancelled : (l.cancelled lim.recorded).mapState bare = l.bare.cancelled lim := by
  have hr : l.bare.machine.running = l.machine.running := rfl
  rw [cancelled, cancelled]
  dsimp only
  rw [hr]
  cases l.machine.running with
  | false => rfl
  | true =>
    simp only [Limits.recorded]
    cases lim.shouldStop with
    | none => rfl
    | some ask =>
      have ha : l.bare.machine.host = l.machine.host.host := rfl
      have hp : l.bare.machine.processor = l.machine.processor := rfl
      simp only [Option.map_some, ha, hp]
      rcases ask l.machine.processor l.machine.host.host with ⟨a, host⟩
      cases a <;> rfl

lemma bare_showScreen : (showScreen h.recorded m).map Machine.bare = showScreen h m.bare := by
  have hw : h.recorded.hasWindow m.host = h.hasWindow m.bare.host := rfl
  have hp (f : Framebuffer) : h.recorded.present f m.host =
    (h.present f m.bare.host).map (m.host.note (.present f)) := rfl
  have hs : m.bare.processor = m.processor := rfl
  rw [showScreen, showScreen, hw, hp, hs]
  split
  · cases h.present m.processor.screen m.bare.host <;> rfl
  · rfl

lemma bare_endFrame : (endFrame h.recorded m).bare = endFrame h m.bare := by
  have hw : h.recorded.hasSound m.host = h.hasSound m.bare.host := rfl
  rw [endFrame, endFrame, hw]
  cases h.hasSound m.bare.host
  · exact apply_ite Machine.bare _ _ _
  · exact apply_ite Machine.bare _ _ _

lemma bare_frame : (frame h.recorded l).mapState bare = frame h l.bare := by
  have hm : showScreen h l.bare.machine = (showScreen h.recorded l.machine).map Machine.bare :=
    (bare_showScreen h l.machine).symm
  rw [frame, frame, hm]
  cases showScreen h.recorded l.machine with
  | error e => rfl
  | ok m =>
    have he := bare_endFrame h m
    exact congrArg (fun q => Outcome.done true (⟨q, l.cycles⟩ : Loop τ η)) he

lemma bare_cleanUp : (cleanUp h.recorded m).bare = cleanUp h m.bare := by
  obtain ⟨hr, hh⟩ := h.shut_recorded m.host
  have hb : m.bare.host = m.host.host := rfl
  rw [cleanUp_eq, cleanUp_eq, hb, ← hr, ← hh]
  rfl

lemma bare_start [TimeScale τ] : (start h.recorded m).bare = start h m.bare := rfl

lemma bare_finish (o : Outcome Failure (Loop τ (Recorded η)) Unit) :
    (finish h.recorded o).mapState Machine.bare = finish h (o.mapState bare) := by
  cases o with
  | done u l =>
    have hc := bare_cleanUp h l.machine
    exact congrArg
      (fun q : Machine τ η => Outcome.done l.cycles (q.report [.loopStopped l.cycles])) hc
  | failed e l =>
    cases e with
    | fault f => exact congrArg (Outcome.failed (Failure.fault f)) (bare_cleanUp h _)
    | clock e => exact congrArg (Outcome.failed (Failure.clock e)) (bare_cleanUp h l.machine)
    | question e => exact congrArg (Outcome.failed (Failure.question e)) (bare_cleanUp h l.machine)
    | picture e => exact congrArg (Outcome.failed (Failure.picture e)) (bare_cleanUp h l.machine)

variable [TimeScale τ]

lemma bare_batch (budget : ℕ) :
    (batch h.recorded lim.recorded budget l).mapState bare = batch h lim budget l.bare := by
  induction budget generalizing l with
  | zero => rfl
  | succ budget ih =>
    rw [batch, batch, ← bare_cancelled]
    cases l.cancelled lim.recorded with
    | failed e l' => rfl
    | done b l' =>
      cases b with
      | true => rfl
      | false =>
        have ht : l'.bare.machine.tick h = (l'.machine.tick h.recorded).mapState Machine.bare :=
          (l'.machine.bare_tick h).symm
        simp only [Outcome.mapState, ht]
        cases l'.machine.tick h.recorded with
        | failed e m => rfl
        | done i m => exact ih ⟨m, l'.cycles + 1⟩

lemma bare_rest (budget : ℕ) :
    (rest h.recorded budget l).mapState bare = rest h budget l.bare := by
  have hc (s : Recorded η) : h.recorded.readClock s =
    ((h.readClock s.host).1, { s with host := (h.readClock s.host).2 }) := rfl
  cases hd : l.machine.schedule.frameDue (h.readClock l.machine.host.host).1 with
  | error e =>
    have hb : l.bare.machine.schedule.frameDue (h.readClock l.bare.machine.host).1 = _ := hd
    simp only [rest, hc, hd, hb]
    rfl
  | ok r =>
    obtain ⟨due, schedule⟩ := r
    have hb : l.bare.machine.schedule.frameDue (h.readClock l.bare.machine.host).1 = _ := hd
    cases due with
    | true =>
      have hr : l.machine.schedule.frameDue (h.recorded.readClock l.machine.host).1 = _ := hd
      rw [rest_of_due hr, rest_of_due hb, bare_frame]
      rfl
    | false =>
      simp only [rest, hc, hd, hb, Bool.false_eq_true, if_false]
      split <;> rfl

lemma bare_work (budget : ℕ) :
    (work h.recorded lim.recorded l budget).mapState bare = work h lim l.bare budget := by
  have hb : batch h lim budget l.bare = _ := (bare_batch h lim l budget).symm
  rw [work, work, hb]
  cases batch h.recorded lim.recorded budget l with
  | failed e l' => rfl
  | done _ l' => exact bare_rest h l' budget

lemma bare_turn : (turn h.recorded lim.recorded l).mapState bare = turn h lim l.bare := by
  have hp : pollWindow h l.bare.machine = _ := (bare_pollWindow h l.machine).symm
  rw [turn, turn, hp]
  rcases pollWindow h.recorded l.machine with ⟨broken, m⟩
  cases broken with
  | true => rfl
  | false =>
    have hc : cancelled lim { l.bare with machine := m.bare } = _ :=
      (bare_cancelled lim { l with machine := m }).symm
    dsimp only
    rw [hc]
    cases cancelled lim.recorded { l with machine := m } with
    | failed e l' => rfl
    | done b l' =>
      cases b with
      | true => rfl
      | false =>
        have hs : l'.bare.machine.schedule = l'.machine.schedule := rfl
        have hk : h.recorded.readClock l'.machine.host =
          ((h.readClock l'.bare.machine.host).1,
            { l'.machine.host with host := (h.readClock l'.bare.machine.host).2 }) := rfl
        simp only [Outcome.mapState, hs, hk]
        cases l'.machine.schedule.instructionsDue (h.readClock l'.bare.machine.host).1 with
        | error e => rfl
        | ok r => exact bare_work h lim _ r.1

lemma bare_turns (fuel : ℕ) :
    (turns h.recorded lim.recorded fuel l).map (·.mapState bare) = turns h lim fuel l.bare := by
  induction fuel generalizing l with
  | zero => rfl
  | succ fuel ih =>
    rw [turns, turns, ← bare_turn]
    cases turn h.recorded lim.recorded l with
    | failed e l' => rfl
    | done b l' =>
      cases b with
      | true => exact ih l'
      | false => rfl

end Loop

lemma Machine.bare_run [TimeScale τ] (h : Host τ η) (lim : Limits τ η) (fuel : ℕ)
    (m : Machine τ (Recorded η)) :
    (m.run h.recorded lim.recorded fuel).map (·.mapState bare) = m.bare.run h lim fuel := by
  rw [run, run, ← Loop.bare_start, ← Loop.bare_turns, Option.map_map, Option.map_map]
  congr 1
  funext o
  exact Loop.bare_finish h o

section Keeps

variable {h : Host τ η} {lim : Limits τ η} {P : η → Prop} {Q : List Call → Prop}

lemma Host.Keeps.recorded (hk : h.Keeps lim P) (hpoll : ∀ cs, Q cs → Q (cs ++ [.poll]))
    (hsound : ∀ on cs, Q cs → Q (cs ++ [.sound on])) :
    h.recorded.Keeps lim.recorded fun s => P s.host ∧ Q s.calls := by
  refine ⟨fun s hp => ?_, fun t s hp => ?_, fun s hp => ?_, fun on s hp => ?_,
    fun ask ha p s hp => ?_⟩
  · exact ⟨hk.readClock _ hp.1, hp.2⟩
  · exact ⟨hk.sleep _ _ hp.1, hp.2⟩
  · exact ⟨hk.poll _ hp.1, hpoll _ hp.2⟩
  · exact ⟨hk.setSound _ _ hp.1, hsound _ _ hp.2⟩
  · obtain ⟨ask', ha', rfl⟩ := Option.mem_map.mp ha
    exact ⟨hk.ask ask' ha' _ _ hp.1, hp.2⟩

lemma Host.present_recorded {f : Framebuffer} {s s' : Recorded η}
    (hs : h.recorded.present f s = .ok s') :
    h.present f s.host = .ok s'.host ∧ s'.calls = s.calls ++ [.present f] := by
  change (h.present f s.host).map (s.note (.present f)) = .ok s' at hs
  cases hh : h.present f s.host with
  | error e =>
    rw [hh] at hs
    cases hs
  | ok host =>
    rw [hh] at hs
    cases hs
    exact ⟨rfl, rfl⟩

lemma Host.KeepsShown.recorded (hk : h.KeepsShown P)
    (hpresent : ∀ f cs, Q cs → Q (cs ++ [.present f])) :
    h.recorded.KeepsShown fun s => P s.host ∧ Q s.calls := by
  intro f s s' hp hs
  obtain ⟨hh, hc⟩ := Host.present_recorded hs
  refine ⟨hk _ _ _ hp.1 hh, ?_⟩
  rw [hc]
  exact hpresent _ _ hp.2

end Keeps

end ChipEight
