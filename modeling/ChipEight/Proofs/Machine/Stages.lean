import ChipEight.Proofs.Machine.Parts

/-!
A run, one stage at a time. The main loop nests its cycles in batches and its batches in turns; here
it is a sequence of stages, each of which does one thing and says which stage is next.
-/

namespace ChipEight

variable {τ η : Type}

inductive Stage (τ η : Type) where
  | poll (l : Loop τ η)
  | check (l : Loop τ η)
  | grant (l : Loop τ η)
  | ask (budget left : ℕ) (l : Loop τ η)
  | cycle (budget left : ℕ) (l : Loop τ η)
  | rest (budget : ℕ) (l : Loop τ η)
  | frame (l : Loop τ η)
  | ended (o : Outcome Failure (Loop τ η) Unit)

namespace Stage

def loop : Stage τ η → Loop τ η
  | poll l | check l | grant l | ask _ _ l | cycle _ _ l | rest _ l | frame l => l
  | ended o => o.state

def isCycle : Stage τ η → Bool
  | cycle _ _ _ => true
  | _ => false

variable [TimeScale τ] (h : Host τ η) (lim : Limits τ η)

def next : Stage τ η → Stage τ η
  | poll l =>
    match Loop.pollWindow h l.machine with
    | (true, m) => ended (.done () { l with machine := m })
    | (false, m) => check { l with machine := m }
  | check l =>
    match l.cancelled lim with
    | .failed e l => ended (.failed e l)
    | .done true l => ended (.done () l)
    | .done false l => grant l
  | grant l =>
    let (now, host) := h.readClock l.machine.host
    match l.machine.schedule.instructionsDue now with
    | .error e => ended (.failed (.clock e) { l with machine := { l.machine with host } })
    | .ok (budget, schedule) =>
      ask budget budget { l with machine := { l.machine with host, schedule } }
  | ask budget 0 l => rest budget l
  | ask budget (left + 1) l =>
    match l.cancelled lim with
    | .failed e l => ended (.failed e l)
    | .done true l => rest budget l
    | .done false l => cycle budget left l
  | cycle budget left l =>
    match l.machine.tick h with
    | .failed e m => ended (.failed e { l with machine := m })
    | .done _ m => ask budget left ⟨m, l.cycles + 1⟩
  | rest budget l =>
    let (now, host) := h.readClock l.machine.host
    match l.machine.schedule.frameDue now with
    | .error e => ended (.failed (.clock e) { l with machine := { l.machine with host } })
    | .ok (due, schedule) =>
      let m := { l.machine with host, schedule }
      if due then frame { l with machine := m }
      else if budget = 0 then
        let (now, host) := h.readClock m.host
        poll { l with machine := { m with host := h.sleep (m.schedule.idleTime now) host } }
      else poll { l with machine := m }
  | frame l =>
    match Loop.showScreen h l.machine with
    | .error e => ended (.failed (.picture e) l)
    | .ok m => poll { l with machine := Loop.endFrame h m }
  | ended o => ended o

def quiet : Stage τ η → Bool
  | cycle _ _ _ | frame _ => false
  | _ => true

lemma next_cases (s : Stage τ η) :
    (∃ budget left l, s = cycle budget left l ∧
      (next h lim s).loop.machine = (l.machine.tick h).state) ∨
    (∃ l, s = frame l ∧ ((next h lim s).loop.machine = l.machine ∨
      ∃ m, Loop.showScreen h l.machine = .ok m ∧
        (next h lim s).loop.machine = Loop.endFrame h m)) ∨
    s.quiet = true ∧ ∃ keypad journal host running schedule, (next h lim s).loop.machine =
      { s.loop.machine with
        processor := { s.loop.machine.processor with keypad }
        journal, host, running, schedule } := by
  fun_cases next h lim s with
  | case1 l m hp | case2 l m hp =>
    obtain ⟨keypad, journal, host, running, he⟩ := Loop.pollWindow_state h l.machine
    rw [hp] at he
    exact .inr (.inr ⟨rfl, keypad, journal, host, running, l.machine.schedule, he⟩)
  | case3 l e l' hc | case4 l l' hc | case5 l l' hc =>
    obtain ⟨host, running, he⟩ := Loop.cancelled_state lim l
    rw [hc] at he
    exact .inr (.inr ⟨rfl, _, _, host, running, _, congrArg Loop.machine he⟩)
  | case9 budget left l e l' hc | case10 budget left l l' hc | case11 budget left l l' hc =>
    obtain ⟨host, running, he⟩ := Loop.cancelled_state lim l
    rw [hc] at he
    exact .inr (.inr ⟨rfl, _, _, host, running, _, congrArg Loop.machine he⟩)
  | case12 budget left l e m hm | case13 budget left l i m hm =>
    refine .inl ⟨budget, left, l, rfl, ?_⟩
    rw [hm]
    rfl
  | case18 l e hs => exact .inr (.inl ⟨l, rfl, .inl rfl⟩)
  | case19 l m hs => exact .inr (.inl ⟨l, rfl, .inr ⟨m, hs, rfl⟩⟩)
  | _ => exact .inr (.inr ⟨rfl, _, _, _, _, _, rfl⟩)

def after (k : ℕ) (s : Stage τ η) : Stage τ η := (next h lim)^[k] s

variable {h lim} {s t u : Stage τ η}

lemma after_ended {o} (k : ℕ) : after h lim k (ended o) = ended o := Function.iterate_fixed rfl k

lemma after_add (j k : ℕ) (s : Stage τ η) :
    after h lim (j + k) s = after h lim j (after h lim k s) := Function.iterate_add_apply _ j k s

lemma after_succ (k : ℕ) (s : Stage τ η) :
    after h lim (k + 1) s = next h lim (after h lim k s) := Function.iterate_succ_apply' _ k s

variable {l : Loop τ η}

variable (h lim) in
def Leads (s t : Stage τ η) : Prop := ∃ k, after h lim k s = t

lemma Leads.refl (s : Stage τ η) : Leads h lim s s := ⟨0, rfl⟩

lemma Leads.trans (hs : Leads h lim s t) (ht : Leads h lim t u) : Leads h lim s u := by
  obtain ⟨j, rfl⟩ := hs
  obtain ⟨k, rfl⟩ := ht
  exact ⟨k + j, after_add k j s⟩

lemma Leads.step (hs : next h lim s = t) : Leads h lim s t := ⟨1, hs⟩

lemma Leads.invariant {Q : Stage τ η → Prop} (hs : Leads h lim s t)
    (hn : ∀ u, Q u → Q (next h lim u)) (hq : Q s) : Q t := by
  obtain ⟨k, rfl⟩ := hs
  induction k with
  | zero => exact hq
  | succ k ih =>
    rw [after_succ]
    exact hn _ ih

def orElse {α : Type} (go : α → Loop τ η → Stage τ η) : Outcome Failure (Loop τ η) α → Stage τ η
  | .done a l => go a l
  | .failed e l => ended (.failed e l)

lemma leads_batch (budget left : ℕ) (l : Loop τ η) :
    Leads h lim (ask budget left l) (orElse (fun _ => rest budget) (Loop.batch h lim left l)) := by
  induction left generalizing l with
  | zero => exact .step rfl
  | succ left ih =>
    rw [Loop.batch]
    cases hc : l.cancelled lim with
    | failed e l' =>
      refine .step ?_
      rw [next, hc]
      rfl
    | done b l' =>
      cases b with
      | true =>
        refine .step ?_
        rw [next, hc]
        rfl
      | false =>
        have ha : Leads h lim (ask budget (left + 1) l) (cycle budget left l') := by
          refine .step ?_
          rw [next, hc]
        refine ha.trans ?_
        dsimp only
        cases hm : l'.machine.tick h with
        | failed e m =>
          refine .step ?_
          rw [next, hm]
          rfl
        | done i m =>
          have hn : Leads h lim (cycle budget left l') (ask budget left ⟨m, l'.cycles + 1⟩) := by
            refine .step ?_
            rw [next, hm]
          exact hn.trans (ih _)

def again (more : Bool) (l : Loop τ η) : Stage τ η := if more then poll l else ended (.done () l)

lemma leads_rest (budget : ℕ) (l : Loop τ η) :
    Leads h lim (rest budget l) (orElse again (Loop.rest h budget l)) := by
  cases hf : l.machine.schedule.frameDue (h.readClock l.machine.host).1 with
  | error e =>
    refine .step ?_
    simp only [next, Loop.rest, hf]
    rfl
  | ok r =>
    obtain ⟨due, schedule⟩ := r
    cases due with
    | true =>
      let m : Machine τ η :=
        { l.machine with host := (h.readClock l.machine.host).2, schedule := schedule }
      have hn : Leads h lim (rest budget l) (frame { l with machine := m }) := by
        refine .step ?_
        simp only [next, hf]
        rfl
      refine hn.trans (.step ?_)
      rw [Loop.rest_of_due hf, next, Loop.frame]
      dsimp only
      cases Loop.showScreen h m <;> rfl
    | false =>
      refine .step ?_
      simp only [next, Loop.rest, hf, Bool.false_eq_true, if_false]
      split <;> rfl

lemma leads_turn (l : Loop τ η) :
    Leads h lim (poll l) (orElse again (Loop.turn h lim l)) := by
  rw [Loop.turn]
  rcases hp : Loop.pollWindow h l.machine with ⟨broken, m⟩
  cases broken with
  | true =>
    refine .step ?_
    rw [next, hp]
    rfl
  | false =>
    have ha : Leads h lim (poll l) (check { l with machine := m }) := by
      refine .step ?_
      rw [next, hp]
    refine ha.trans ?_
    dsimp only
    cases hc : Loop.cancelled lim { l with machine := m } with
    | failed e l' =>
      refine .step ?_
      rw [next, hc]
      rfl
    | done b l' =>
      cases b with
      | true =>
        refine .step ?_
        rw [next, hc]
        rfl
      | false =>
        have hg : Leads h lim (check { l with machine := m }) (grant l') := by
          refine .step ?_
          rw [next, hc]
        refine hg.trans ?_
        dsimp only
        cases hd : l'.machine.schedule.instructionsDue (h.readClock l'.machine.host).1 with
        | error e =>
          refine .step ?_
          simp only [next, hd]
          rfl
        | ok r =>
          obtain ⟨budget, schedule⟩ := r
          let begun : Loop τ η := { l' with machine :=
            { l'.machine with host := (h.readClock l'.machine.host).2, schedule := schedule } }
          have hn : Leads h lim (grant l') (ask budget budget begun) := by
            refine .step ?_
            simp only [next, hd]
            rfl
          have hb : Leads h lim (ask budget budget begun)
              (orElse (fun _ => rest budget) (Loop.batch h lim budget begun)) :=
            leads_batch budget budget begun
          refine hn.trans (hb.trans ?_)
          dsimp only
          change Leads h lim _ (orElse again (Loop.work h lim begun budget))
          rw [Loop.work]
          cases Loop.batch h lim budget begun with
          | failed e l₁ => exact .refl _
          | done _ l₁ => exact leads_rest budget l₁

lemma leads_turns {fuel : ℕ} {o : Outcome Failure (Loop τ η) Unit}
    (ho : Loop.turns h lim fuel l = some o) : Leads h lim (poll l) (ended o) := by
  induction fuel generalizing l with
  | zero => cases ho
  | succ fuel ih =>
    have ht : Leads h lim (poll l) (orElse again (Loop.turn h lim l)) := leads_turn l
    rw [Loop.turns] at ho
    cases hl : Loop.turn h lim l with
    | failed e l' =>
      rw [hl] at ho ht
      cases ho
      exact ht
    | done b l' =>
      rw [hl] at ho ht
      cases b with
      | true => exact ht.trans (ih ho)
      | false =>
        cases ho
        exact ht

end Stage

section Run

variable [TimeScale τ] (h : Host τ η) (lim : Limits τ η) (m : Machine τ η)

def Machine.stage (k : ℕ) : Stage τ η := (Stage.poll (Loop.start h m)).after h lim k

namespace Machine

lemma stage_succ (k : ℕ) : m.stage h lim (k + 1) = (m.stage h lim k).next h lim :=
  Stage.after_succ k _

variable {h lim m}

lemma stage_of_turns {fuel : ℕ} {o : Outcome Failure (Loop τ η) Unit}
    (ho : Loop.turns h lim fuel (Loop.start h m) = some o) : ∃ k, m.stage h lim k = .ended o :=
  Stage.leads_turns ho

lemma stage_of_ended {i k : ℕ} {o : Outcome Failure (Loop τ η) Unit}
    (hi : m.stage h lim i = .ended o) (hk : i ≤ k) : m.stage h lim k = .ended o := by
  induction k, hk using Nat.le_induction with
  | base => exact hi
  | succ k _ ih =>
    rw [stage_succ, ih]
    rfl

end Machine

end Run

section Keeps

/-- Nothing that is done to the surroundings before the end of a run leaves `P`, unless a frame is
shown. -/
structure Host.Keeps (h : Host τ η) (lim : Limits τ η) (P : η → Prop) : Prop where
  readClock : ∀ s, P s → P (h.readClock s).2
  sleep : ∀ t s, P s → P (h.sleep t s)
  poll : ∀ s, P s → P (h.poll s).2
  setSound : ∀ on s, P s → P (h.setSound on s)
  ask : ∀ ask ∈ lim.shouldStop, ∀ p s, P s → P (ask p s).2

def Host.KeepsShown (h : Host τ η) (P : η → Prop) : Prop :=
  ∀ f s s', P s → h.present f s = .ok s' → P s'

variable {h : Host τ η} {lim : Limits τ η} {P : η → Prop}

lemma Loop.keeps_pollWindow {m : Machine τ η} (hk : h.Keeps lim P) (hp : P m.host) :
    P (pollWindow h m).2.host := by
  obtain ⟨-, he⟩ | ⟨-, he⟩ | ⟨goOn, keypad, journal, -, he⟩ := pollWindow_cases h m
  all_goals rw [he]
  · exact hp
  · exact hk.poll _ hp
  · exact hk.poll _ hp

lemma Loop.keeps_cancelled {l : Loop τ η} (hk : h.Keeps lim P) (hp : P l.machine.host) :
    P (l.cancelled lim).state.machine.host := by
  rw [cancelled]
  cases l.machine.running with
  | false => exact hp
  | true =>
    cases hs : lim.shouldStop with
    | none => exact hp
    | some ask =>
      have ha := hk.ask ask hs l.machine.processor l.machine.host hp
      dsimp only
      rcases hv : ask l.machine.processor l.machine.host with ⟨v, host⟩
      rw [hv] at ha
      cases v <;> exact ha

lemma Loop.keeps_endFrame {m : Machine τ η} (hk : h.Keeps lim P) (hp : P m.host) :
    P (endFrame h m).host := by
  obtain ⟨journal, he⟩ := endFrame_eq h m
  rw [he]
  dsimp only
  split
  · exact hk.setSound _ _ hp
  · exact hp

variable [TimeScale τ] {s : Stage τ η}

lemma Stage.keeps_next (hk : h.Keeps lim P) (hf : ∀ l, s = frame l → h.KeepsShown P)
    (hp : P s.loop.machine.host) : P (next h lim s).loop.machine.host := by
  revert hf
  fun_cases next h lim s with
  | case1 l m hm | case2 l m hm =>
    have hl : P (Loop.pollWindow h l.machine).2.host := Loop.keeps_pollWindow hk hp
    rw [hm] at hl
    exact fun _ => hl
  | case3 l e l' hc | case4 l l' hc | case5 l l' hc =>
    have hl : P (l.cancelled lim).state.machine.host := Loop.keeps_cancelled hk hp
    rw [hc] at hl
    exact fun _ => hl
  | case9 budget left l e l' hc | case10 budget left l l' hc | case11 budget left l l' hc =>
    have hl : P (l.cancelled lim).state.machine.host := Loop.keeps_cancelled hk hp
    rw [hc] at hl
    exact fun _ => hl
  | case12 budget left l e m hm | case13 budget left l i m hm =>
    obtain ⟨processor, journal, ht⟩ := l.machine.tick_state h
    rw [hm] at ht
    change m = _ at ht
    rw [ht]
    exact fun _ => hk.readClock _ hp
  | case6 l now host hr | case7 l now host hr =>
    have hc : P (h.readClock l.machine.host).2 := hk.readClock _ hp
    rw [hr] at hc
    exact fun _ => hc
  | case14 budget l now host hr | case15 budget l now host hr | case17 budget l now host hr =>
    have hc : P (h.readClock l.machine.host).2 := hk.readClock _ hp
    rw [hr] at hc
    exact fun _ => hc
  | case16 l now host hr due schedule hd m hn now' host' hr' =>
    have hc : P (h.readClock l.machine.host).2 := hk.readClock _ hp
    rw [hr] at hc
    have hc' : P (h.readClock m.host).2 := hk.readClock _ hc
    rw [hr'] at hc'
    exact fun _ => hk.sleep _ _ hc'
  | case19 l m hm =>
    intro hf
    obtain ⟨rfl, -⟩ | ⟨-, -, host, hs, rfl⟩ := Loop.showScreen_ok h l.machine hm
    · exact Loop.keeps_endFrame hk hp
    · exact Loop.keeps_endFrame hk (hf l rfl _ _ _ hp hs)
  | _ => exact fun _ => hp

lemma Machine.keeps_stage {m : Machine τ η} (hk : h.Keeps lim P) (hf : h.KeepsShown P)
    (hp : P m.host) (k : ℕ) : P (m.stage h lim k).loop.machine.host := by
  induction k with
  | zero => exact hk.readClock _ hp
  | succ k ih =>
    rw [stage_succ]
    exact Stage.keeps_next hk (fun _ _ => hf) ih

end Keeps

end ChipEight
