import ChipEight.Host.Scripted
import ChipEight.Proofs.Machine.View
import ChipEight.Proofs.Processor.Runs

/-!
The main loop is only a schedule of cycles: whatever the window, the sound, the frames, the batches
and the caller do in a run, its processor goes the way of a machine that is ticked by hand at the
same readings of the clock and given the same key events in between.
-/

namespace ChipEight

variable {τ η : Type}

inductive Stimulus (τ : Type) where
  | key (e : KeyEvent)
  | tick (now : τ)
  deriving DecidableEq

def Stimulus.isTick : Stimulus τ → Bool
  | key _ => false
  | tick _ => true

def ticks (ds : List (Stimulus τ)) : ℕ := ds.countP Stimulus.isTick

def Host.byHand : Host τ τ where
  readClock now := (now, now)
  sleep _ now := now
  hasWindow _ := false
  poll now := (.events [] true, now)
  present _ now := .ok now
  closeWindow now := ([], now)
  hasSound _ := false
  setSound _ now := now

lemma ticks_append (ds es : List (Stimulus τ)) : ticks (ds ++ es) = ticks ds + ticks es :=
  List.countP_append

lemma ticks_keys (es : List KeyEvent) : ticks (es.map (.key (τ := τ))) = 0 := by
  rw [ticks, List.countP_map]
  exact List.countP_eq_zero.mpr fun _ _ => Bool.false_ne_true

variable [TimeScale τ]

namespace Machine

def restarted (m : Machine τ η) (now : τ) : Machine τ τ :=
  { m with host := now, schedule := m.schedule.restart now }

def respond (q : Machine τ τ) : Stimulus τ → Outcome Failure (Machine τ τ) Unit
  | .key e => .done () (q.applyKey e)
  | .tick now =>
    match { q with host := now }.tick Host.byHand with
    | .failed e q => .failed e q
    | .done _ q => .done () q

def replay (q : Machine τ τ) : List (Stimulus τ) → Outcome Failure (Machine τ τ) Unit
  | [] => .done () q
  | d :: ds =>
    match q.respond d with
    | .failed e q => .failed e q
    | .done _ q => q.replay ds

lemma replay_append (q : Machine τ τ) (ds es : List (Stimulus τ)) :
    q.replay (ds ++ es) = match q.replay ds with
      | .failed e q => .failed e q
      | .done _ q => q.replay es := by
  induction ds generalizing q with
  | nil => rfl
  | cons d ds ih =>
    rw [List.cons_append, replay, replay]
    cases q.respond d with
    | failed e q => rfl
    | done _ q => exact ih q

lemma replay_keys (q : Machine τ τ) (es : List KeyEvent) :
    q.replay (es.map .key) = .done () (q.applyKeys es) := by
  induction es generalizing q with
  | nil => rfl
  | cons e es ih => exact ih (q.applyKey e)

end Machine

namespace Loop

section Trace

variable (h : Host τ η) (lim : Limits τ η)

omit [TimeScale τ] in
def polled (m : Machine τ η) : List KeyEvent :=
  if h.hasWindow m.host then
    match (h.poll m.host).1 with
    | .interrupted => []
    | .events keys _ => keys
  else []

/-- The batch that a turn grants and the state in which it begins; none if the turn ends before. -/
def granted (l : Loop τ η) : Option (ℕ × Loop τ η) :=
  match pollWindow h l.machine with
  | (true, _) => none
  | (false, m) =>
    match cancelled lim { l with machine := m } with
    | .done false l =>
      let (now, host) := h.readClock l.machine.host
      match l.machine.schedule.instructionsDue now with
      | .error _ => none
      | .ok (budget, schedule) =>
        some (budget, { l with machine := { l.machine with host, schedule } })
    | _ => none

def batchStimuli : ℕ → Loop τ η → List (Stimulus τ)
  | 0, _ => []
  | budget + 1, l =>
    match l.cancelled lim with
    | .done false l =>
      .tick (h.readClock l.machine.host).1 ::
        match l.machine.tick h with
        | .failed _ _ => []
        | .done _ m => batchStimuli budget ⟨m, l.cycles + 1⟩
    | _ => []

def turnStimuli (l : Loop τ η) : List (Stimulus τ) :=
  (polled h l.machine).map .key ++
    match granted h lim l with
    | none => []
    | some (budget, l) => batchStimuli h lim budget l

def stimuli : ℕ → Loop τ η → List (Stimulus τ)
  | 0, _ => []
  | fuel + 1, l =>
    turnStimuli h lim l ++
      match turn h lim l with
      | .done true l => stimuli fuel l
      | _ => []

end Trace

/-- After the stimuli `ds` the machine `q` is where the loop `l` is, which had completed `n` cycles
before them. -/
def Reaches (q : Machine τ τ) (n : ℕ) (ds : List (Stimulus τ)) (l : Loop τ η) : Prop :=
  l.cycles = n + ticks ds ∧ ∃ q', q.replay ds = .done () q' ∧ l.machine.view = q'.view

/-- The last of the stimuli `ds` is a tick that fails, for the machine `q` as in the loop `l`. -/
def Breaks (q : Machine τ τ) (n : ℕ) (ds : List (Stimulus τ)) (e : Failure) (l : Loop τ η) : Prop :=
  ∃ ds' now q₁ q₂, ds = ds' ++ [.tick now] ∧ l.cycles = n + ticks ds' ∧
    q.replay ds' = .done () q₁ ∧ q₁.respond (.tick now) = .failed e q₂ ∧ l.machine.view = q₂.view

def Replays {α : Type} (q : Machine τ τ) (n : ℕ) (ds : List (Stimulus τ)) :
    Outcome Failure (Loop τ η) α → Prop
  | .done _ l => Reaches q n ds l
  | .failed e l => (∀ f, e ≠ .fault f) ∧ Reaches q n ds l ∨ Breaks q n ds e l

section Replays

variable {h : Host τ η} {lim : Limits τ η} {β : Type} {q q' : Machine τ τ} {n : ℕ}
  {ds es : List (Stimulus τ)} {l l' : Loop τ η}

lemma Reaches.after (hn : l.cycles = n + ticks ds) (hq : q.replay ds = .done () q')
    (hr : Reaches q' l.cycles es l') : Reaches q n (ds ++ es) l' := by
  obtain ⟨hc, q'', hq', hv⟩ := hr
  refine ⟨?_, q'', ?_, hv⟩
  · rw [hc, hn, ticks_append, Nat.add_assoc]
  · rw [Machine.replay_append, hq]
    exact hq'

lemma Breaks.after {e : Failure} (hn : l.cycles = n + ticks ds) (hq : q.replay ds = .done () q')
    (hb : Breaks q' l.cycles es e l') : Breaks q n (ds ++ es) e l' := by
  obtain ⟨es', now, q₁, q₂, rfl, hc, hq₁, hq₂, hv⟩ := hb
  refine ⟨ds ++ es', now, q₁, q₂, (List.append_assoc ..).symm, ?_, ?_, hq₂, hv⟩
  · rw [hc, hn, ticks_append, Nat.add_assoc]
  · rw [Machine.replay_append, hq]
    exact hq₁

lemma Reaches.append {o : Outcome Failure (Loop τ η) β} (hl : Reaches q n ds l)
    (ho : ∀ q', l.machine.view = q'.view → Replays q' l.cycles es o) :
    Replays q n (ds ++ es) o := by
  obtain ⟨hn, q', hq, hv⟩ := hl
  cases o with
  | done b l' => exact (ho q' hv).after hn hq
  | failed e l' =>
    obtain ⟨he, hr⟩ | hb := ho q' hv
    · exact .inl ⟨he, hr.after hn hq⟩
    · exact .inr (hb.after hn hq)

lemma reaches_nil (hc : l'.cycles = l.cycles) (hl : l'.machine.view = l.machine.view)
    (hv : l.machine.view = q.view) : Reaches q l.cycles [] l' :=
  ⟨hc, q, rfl, hl.trans hv⟩

lemma cancelled_replays (hv : l.machine.view = q.view) :
    Replays q l.cycles [] (l.cancelled lim) := by
  rw [cancelled]
  dsimp only
  split
  · exact reaches_nil rfl rfl hv
  · split
    · exact reaches_nil rfl rfl hv
    · split
      · exact .inl ⟨fun _ => nofun, reaches_nil rfl rfl hv⟩
      · exact reaches_nil rfl rfl hv

lemma rest_replays (budget : ℕ) (hv : l.machine.view = q.view) :
    Replays q l.cycles [] (rest h budget l) := by
  rw [rest]
  dsimp only
  cases hf : l.machine.schedule.frameDue (h.readClock l.machine.host).1 with
  | error e => exact .inl ⟨fun _ => nofun, reaches_nil rfl rfl hv⟩
  | ok r =>
    obtain ⟨due, s⟩ := r
    have hs := Machine.view_schedule l.machine (h.readClock l.machine.host).2
      (Schedule.countedTo_of_frameDue hf)
    dsimp only
    split
    · split
      · exact .inl ⟨fun _ => nofun, reaches_nil rfl hs hv⟩
      · rename_i m hm
        refine reaches_nil rfl ?_ hv
        exact (view_endFrame h m).trans ((view_showScreen hm).trans hs)
    · split
      · exact reaches_nil rfl hs hv
      · exact reaches_nil rfl hs hv

lemma tick_replays (hv : l.machine.view = q.view) :
    Replays q l.cycles [.tick (h.readClock l.machine.host).1]
      (match l.machine.tick h with
        | .failed e m => .failed e { l with machine := m }
        | .done _ m => .done () ⟨m, l.cycles + 1⟩ : Outcome Failure (Loop τ η) Unit) := by
  -- the clock set by hand shows the reading that the loop's host gives
  let now := (h.readClock l.machine.host).1
  let timed : Machine τ τ := { q with host := now }
  have ht : (l.machine.tick h).mapState Machine.view =
      (timed.tick Host.byHand).mapState Machine.view := Machine.view_tick_congr hv rfl
  have hr : q.respond (.tick now) = match timed.tick Host.byHand with
    | .failed e q => .failed e q
    | .done _ q => .done () q := rfl
  cases hm : l.machine.tick h with
  | failed e m =>
    rw [hm] at ht
    obtain ⟨q', hq, hv'⟩ := Outcome.mapState_eq_failed.mp ht.symm
    rw [hq] at hr
    exact .inr ⟨[], now, q, q', rfl, rfl, rfl, hr, hv'.symm⟩
  | done i m =>
    rw [hm] at ht
    obtain ⟨q', hq, hv'⟩ := Outcome.mapState_eq_done.mp ht.symm
    rw [hq] at hr
    refine ⟨rfl, q', ?_, hv'.symm⟩
    rw [Machine.replay, hr]
    rfl

lemma batch_replays (budget : ℕ) (hv : l.machine.view = q.view) :
    Replays q l.cycles (batchStimuli h lim budget l) (batch h lim budget l) := by
  induction budget generalizing l q with
  | zero => exact reaches_nil rfl rfl hv
  | succ budget ih =>
    have hc : Replays q l.cycles [] (l.cancelled lim) := cancelled_replays hv
    rw [batch, batchStimuli]
    cases hl : l.cancelled lim with
    | failed e l' =>
      rw [hl] at hc
      exact hc
    | done b l' =>
      rw [hl] at hc
      cases b with
      | true => exact hc
      | false =>
        refine Reaches.append hc fun q' hv' => ?_
        have ht := tick_replays (h := h) hv'
        dsimp only
        cases hm : l'.machine.tick h with
        | failed e m =>
          rw [hm] at ht
          exact ht
        | done i m =>
          rw [hm] at ht
          exact Reaches.append ht fun q'' hv'' => ih hv''

lemma batch_rest_replays (budget : ℕ) (hv : l.machine.view = q.view) :
    Replays q l.cycles (batchStimuli h lim budget l)
      (match batch h lim budget l with
        | .failed e l => .failed e l
        | .done _ l => rest h budget l) := by
  have hb : Replays q l.cycles (batchStimuli h lim budget l) (batch h lim budget l) :=
    batch_replays budget hv
  cases hl : batch h lim budget l with
  | failed e l' =>
    rw [hl] at hb
    exact hb
  | done _ l' =>
    rw [hl] at hb
    have hr := Reaches.append hb fun q' hv' => rest_replays (h := h) budget hv'
    rwa [List.append_nil] at hr

omit [TimeScale τ] in
lemma view_pollWindow (m : Machine τ η) :
    (pollWindow h m).2.view = (m.applyKeys (polled h m)).view := by
  rw [pollWindow, polled]
  split
  · rcases hp : h.poll m.host with ⟨poll, host⟩
    cases poll with
    | interrupted => rfl
    | events keys goOn =>
      let asked := { m with host := host }
      have hk : (asked.applyKeys keys).view = (m.applyKeys keys).view :=
        Machine.view_applyKeys_congr (m := asked) (q := m) rfl keys
      cases goOn <;> exact hk
  · rfl

lemma turn_replays (hv : l.machine.view = q.view) :
    Replays q l.cycles (turnStimuli h lim l) (turn h lim l) := by
  have hk : Reaches q l.cycles ((polled h l.machine).map .key)
      { l with machine := (pollWindow h l.machine).2 } := by
    refine ⟨?_, _, q.replay_keys _, ?_⟩
    · rw [ticks_keys]
      rfl
    · exact (view_pollWindow l.machine).trans (Machine.view_applyKeys_congr hv _)
  rw [turn, turnStimuli, granted]
  rcases hp : pollWindow h l.machine with ⟨broken, m⟩
  rw [hp] at hk
  refine hk.append fun q₁ hv₁ => ?_
  cases broken with
  | true => exact reaches_nil rfl rfl hv₁
  | false =>
    have hc : Replays q₁ l.cycles [] (cancelled lim { l with machine := m }) :=
      cancelled_replays hv₁
    dsimp only
    cases hl : cancelled lim { l with machine := m } with
    | failed e l₁ =>
      rw [hl] at hc
      exact hc
    | done b l₁ =>
      rw [hl] at hc
      cases b with
      | true => exact hc
      | false =>
        refine Reaches.append hc fun q₂ hv₂ => ?_
        dsimp only
        cases hd : l₁.machine.schedule.instructionsDue (h.readClock l₁.machine.host).1 with
        | error e => exact .inl ⟨fun _ => nofun, reaches_nil rfl rfl hv₂⟩
        | ok r =>
          obtain ⟨budget, s⟩ := r
          have hs := Machine.view_schedule l₁.machine (h.readClock l₁.machine.host).2
            (Schedule.countedTo_of_instructionsDue hd)
          let begun := { l₁ with machine :=
            { l₁.machine with host := (h.readClock l₁.machine.host).2, schedule := s } }
          exact batch_rest_replays (l := begun) budget (hs.trans hv₂)

lemma turns_replays {fuel : ℕ} {o : Outcome Failure (Loop τ η) Unit} (hv : l.machine.view = q.view)
    (ho : turns h lim fuel l = some o) : Replays q l.cycles (stimuli h lim fuel l) o := by
  -- from one turn to the next nothing carries over but the view
  induction fuel generalizing l q with
  | zero => cases ho
  | succ fuel ih =>
    have ht : Replays q l.cycles (turnStimuli h lim l) (turn h lim l) := turn_replays hv
    rw [turns] at ho
    rw [stimuli]
    cases hl : turn h lim l with
    | failed e l' =>
      rw [hl] at ho ht
      cases ho
      rw [List.append_nil]
      exact ht
    | done b l' =>
      rw [hl] at ho ht
      cases b with
      | true => exact Reaches.append ht fun q' hv' => ih hv' ho
      | false =>
        cases ho
        rw [List.append_nil]
        exact ht

end Replays

end Loop

namespace Machine

def stimuli (h : Host τ η) (lim : Limits τ η) (fuel : ℕ) (m : Machine τ η) : List (Stimulus τ) :=
  Loop.stimuli h lim fuel (Loop.start h m)

/-- A run that ends after `n` cycles leaves what `n` ticks by hand leave, with the key events
between them; one that ends in a fault leaves what the tick leaves that has the fault. -/
theorem run_replays (h : Host τ η) (lim : Limits τ η) (fuel : ℕ) (m : Machine τ η) :
    (∀ n m', m.run h lim fuel = some (.done n m') →
      ticks (m.stimuli h lim fuel) = n ∧
        ∃ q, (m.restarted (h.readClock m.host).1).replay (m.stimuli h lim fuel) = .done () q ∧
          m'.view = q.view) ∧
    ∀ f m', m.run h lim fuel = some (.failed (.fault f) m') →
      ∃ ds now q₁ q₂, m.stimuli h lim fuel = ds ++ [.tick now] ∧
        (m.restarted (h.readClock m.host).1).replay ds = .done () q₁ ∧
        q₁.respond (.tick now) = .failed (.fault f) q₂ ∧ m'.view = q₂.view := by
  have hv : (Loop.start h m).machine.view = (m.restarted (h.readClock m.host).1).view := rfl
  have hz : (Loop.start h m).cycles = 0 := rfl
  constructor
  · intro n m' hr
    obtain ⟨l, hl, hn, hm⟩ := run_done hr
    obtain ⟨hc, q, hq, hq'⟩ := Loop.turns_replays hv hl
    rw [hn, hz, Nat.zero_add] at hc
    exact ⟨hc.symm, q, hq, hm.trans hq'⟩
  · intro f m' hr
    obtain ⟨l, hl, hm⟩ := run_fault hr
    obtain ⟨hf, -⟩ | ⟨ds, now, q₁, q₂, hds, -, hq₁, hq₂, hq⟩ := Loop.turns_replays hv hl
    · exact absurd rfl (hf f)
    · exact ⟨ds, now, q₁, q₂, hds, hq₁, hq₂, hm.trans hq⟩

/-- V0 goes up by one, and then there is no caller to return to. The window presses a key at the
first turn; every reading of the clock is a hundredth of a second after the last. -/
def strayed : Machine ℚ (ScriptedHost ℚ) where
  processor := .booted [0x70, 0x01, 0x00, 0xEE]
  schedule := ⟨0, none, ⟨60, 1 / 60, 0⟩⟩
  host := .start 0 (1 / 100) (some ⟨none, none, [(1, .press 5)], 0, 0, []⟩) true
  running := false
  frames := 0
  fault := none
  rom := none
  journal := .empty .error

theorem strayed_replays :
    (∃ m q, strayed.run ScriptedHost.host ⟨some 1, none⟩ 3 = some (.done 1 m) ∧
      (strayed.restarted (1 / 100)).replay [.key (.press 5), .tick (3 / 100)] = .done () q ∧
      m.view = q.view) ∧
    ∃ m q₁ q₂, strayed.run ScriptedHost.host ⟨none, none⟩ 3 =
        some (.failed (.fault .stackUnderflow) m) ∧
      (strayed.restarted (1 / 100)).replay [.key (.press 5), .tick (3 / 100)] = .done () q₁ ∧
      q₁.respond (.tick (6 / 100)) = .failed (.fault .stackUnderflow) q₂ ∧ m.view = q₂.view := by
  have hc : (ScriptedHost.host.readClock strayed.host).1 = 1 / 100 := by decide +kernel
  constructor
  · have hs : strayed.stimuli ScriptedHost.host ⟨some 1, none⟩ 3 =
        [.key (.press 5), .tick (3 / 100)] := by decide +kernel
    have ha : (strayed.run ScriptedHost.host ⟨some 1, none⟩ 3).map Outcome.answer =
        some (.ok 1) := by
      decide +kernel
    obtain ⟨o, ho, hv⟩ := Option.map_eq_some_iff.mp ha
    obtain ⟨m, rfl⟩ := Outcome.answer_eq_ok.mp hv
    obtain ⟨-, q, hq, hm⟩ := (run_replays ScriptedHost.host ⟨some 1, none⟩ 3 strayed).1 1 m ho
    rw [hs, hc] at hq
    exact ⟨m, q, ho, hq, hm⟩
  · have hs : strayed.stimuli ScriptedHost.host ⟨none, none⟩ 3 =
        [.key (.press 5), .tick (3 / 100)] ++ [.tick (6 / 100)] := by decide +kernel
    have ha : (strayed.run ScriptedHost.host ⟨none, none⟩ 3).map Outcome.answer =
        some (.error (.fault .stackUnderflow)) := by
      decide +kernel
    obtain ⟨o, ho, hv⟩ := Option.map_eq_some_iff.mp ha
    obtain ⟨m, rfl⟩ := Outcome.answer_eq_error.mp hv
    obtain ⟨ds, now, q₁, q₂, hds, hq₁, hq₂, hm⟩ :=
      (run_replays ScriptedHost.host ⟨none, none⟩ 3 strayed).2 .stackUnderflow m ho
    rw [hs] at hds
    obtain ⟨rfl, hnow⟩ := List.append_inj' hds rfl
    cases hnow
    rw [hc] at hq₁
    exact ⟨m, q₁, q₂, ho, hq₁, hq₂, hm⟩

end Machine

end ChipEight
