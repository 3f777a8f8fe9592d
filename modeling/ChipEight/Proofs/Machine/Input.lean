import ChipEight.Host.Desktop
import ChipEight.Proofs.Keypad.Latch
import ChipEight.Proofs.Machine.Throttle
import ChipEight.Proofs.Processor.Effects
import Mathlib.Data.List.Intervals

/-!
What happens at the window reaches the program. The events of a queue count up to the one with which
the user leaves. A key that goes down is in the sample of the next cycle, however soon it comes up
again and however late that cycle is; once it is up, it is in no sample but that one.
-/

namespace ChipEight

namespace WindowEvent

def Leaves (e : WindowEvent) : Prop := e = .quit ∨ e = .keyDown escape

def Means (e : WindowEvent) (k : KeyEvent) : Prop :=
  ∃ code key, (code, key) ∈ keyTable ∧
    (e = .keyDown code ∧ k = .press key ∨ e = .keyUp code ∧ k = .release key)

/-- The events of a queue are taken one after the other until the user leaves, and those that mean
something to the keys are passed on. -/
inductive Heard : List WindowEvent → List KeyEvent → Bool → Prop
  | nil : Heard [] [] true
  | leave {e es} : e.Leaves → Heard (e :: es) [] false
  | key {e es k ks stays} : ¬ e.Leaves → e.Means k → Heard es ks stays →
      Heard (e :: es) (k :: ks) stays
  | pass {e es ks stays} : ¬ e.Leaves → (∀ k, ¬ e.Means k) → Heard es ks stays →
      Heard (e :: es) ks stays

variable {e : WindowEvent} {es : List WindowEvent} {k : KeyEvent} {ks : List KeyEvent}
  {stays : Bool}

lemma leaves_iff : e.leaves = true ↔ e.Leaves := by
  cases e <;> simp [leaves, Leaves]

lemma lookup_keyTable {code key : ℤ} :
    keyTable.lookup code = some key ↔ (code, key) ∈ keyTable := by
  constructor
  · intro h
    obtain ⟨before, behind, hs, -⟩ := List.lookup_eq_some_iff.mp h
    rw [hs]
    simp
  · intro h
    have hd : ∀ p ∈ keyTable, keyTable.lookup p.1 = some p.2 := by decide
    exact hd _ h

lemma keyEvent?_eq_some_iff : e.keyEvent? = some k ↔ e.Means k := by
  cases e with
  | keyDown code | keyUp code =>
    simp only [keyEvent?, Option.map_eq_some_iff, lookup_keyTable, Means, reduceCtorEq, false_and,
      or_false, false_or]
    constructor
    · rintro ⟨key, hm, rfl⟩
      exact ⟨code, key, hm, rfl, rfl⟩
    · rintro ⟨code', key, hm, he, rfl⟩
      cases he
      exact ⟨key, hm, rfl⟩
  | _ => simp [keyEvent?, Means]

lemma readQueue_of_leaves (h : e.leaves = true) : readQueue (e :: es) = ([], false) := by
  simp [readQueue, h]

lemma readQueue_of_stays (h : e.leaves = false) :
    readQueue (e :: es) = (e.keyEvent?.toList ++ (readQueue es).1, (readQueue es).2) := by
  cases hk : e.keyEvent? <;> simp [readQueue, h, hk]

lemma heard_readQueue (es : List WindowEvent) : Heard es (readQueue es).1 (readQueue es).2 := by
  induction es with
  | nil => exact .nil
  | cons e es ih =>
    cases hl : e.leaves with
    | true =>
      rw [readQueue_of_leaves hl]
      exact .leave (leaves_iff.mp hl)
    | false =>
      have hn : ¬ e.Leaves := by rw [← leaves_iff, hl]; exact Bool.false_ne_true
      rw [readQueue_of_stays hl]
      cases hk : e.keyEvent? with
      | none =>
        refine .pass hn (fun k hm => ?_) ih
        rw [← keyEvent?_eq_some_iff, hk] at hm
        cases hm
      | some k => exact .key hn (keyEvent?_eq_some_iff.mp hk) ih

lemma Heard.stays_iff (h : Heard es ks stays) : stays = false ↔ ∃ e ∈ es, e.Leaves := by
  induction h with
  | nil => simp
  | leave hl => simp [hl]
  | key hl _ _ ih => simp [hl, ih]
  | pass hl _ _ ih => simp [hl, ih]

end WindowEvent

variable {τ η : Type}

/-- Whenever the window is asked, it has the events of a queue, which may be any. -/
def Host.HandsOver (h : Host τ η) (queue : η → List WindowEvent) : Prop :=
  ∀ s, (h.poll s).1 =
    .events (WindowEvent.readQueue (queue s)).1 (WindowEvent.readQueue (queue s)).2

namespace Machine

variable {m : Machine τ η}

lemma keypad_applyKeys (es : List KeyEvent) :
    (m.applyKeys es).processor.keypad = es.foldl Keypad.apply m.processor.keypad := by
  induction es generalizing m with
  | nil => rfl
  | cons e es ih => exact ih (m := m.applyKey e)

lemma keypad_cycle : m.cycle.state.processor.keypad = m.processor.keypad.sample.2 := by
  have hk : m.processor.cycle.state.keypad = m.processor.sampled.keypad :=
    m.processor.keypad_cycle
  rw [cycle]
  dsimp only [report]
  cases hc : m.processor.cycle <;> rw [hc] at hk <;> exact hk

end Machine

lemma Loop.keypad_cancelled {lim : Limits τ η} {l : Loop τ η} :
    (l.cancelled lim).state.machine.processor.keypad = l.machine.processor.keypad := by
  obtain ⟨host, running, he⟩ := cancelled_state lim l
  rw [he]

namespace Stage

variable (h : Host τ η)

def keypad (s : Stage τ η) : Keypad := s.loop.machine.processor.keypad

def applied : Stage τ η → List KeyEvent
  | poll l => Loop.polled h l.machine
  | _ => []

variable [TimeScale τ]

/-- The sample that a cycle takes of the keys, whether it waits for one or not. There is none if the
counters fail before the cycle. -/
def sample? : Stage τ η → Option KeySample
  | cycle _ _ l =>
    match l.machine.tick h with
    | .failed (.clock _) _ => none
    | _ => some l.machine.processor.keys
  | _ => none

def keypadUses (s : Stage τ η) : List KeypadUse :=
  (s.applied h).map .key ++ (s.sample? h).toList.map fun _ => .sample

variable {h} {lim : Limits τ η} {s : Stage τ η} {l : Loop τ η}

lemma keypad_poll :
    (next h lim (poll l)).keypad =
      (Loop.polled h l.machine).foldl Keypad.apply l.machine.processor.keypad := by
  have hv : (Loop.pollWindow h l.machine).2.view = _ := Loop.view_pollWindow l.machine
  have hk : (Loop.pollWindow h l.machine).2.processor.keypad =
      (l.machine.applyKeys (Loop.polled h l.machine)).processor.keypad :=
    congrArg (fun v => v.1.keypad) hv
  rw [Machine.keypad_applyKeys] at hk
  rw [next, ← hk]
  rcases Loop.pollWindow h l.machine with ⟨broken, m⟩
  cases broken <;> rfl

lemma sample?_of_cycle {budget left : ℕ} {m : Machine τ η}
    (ht : l.machine.tick h = m.cycle.mapError .fault) :
    (cycle budget left l).sample? h = some l.machine.processor.keys := by
  rw [sample?, ht]
  cases m.cycle <;> rfl

lemma keypad_tick (budget left : ℕ) :
    (l.machine.tick h).state.processor.keypad =
      l.machine.processor.keypad.uses ((cycle budget left l).keypadUses h) := by
  obtain ⟨timer, m, rfl, ⟨e, ht⟩ | ht⟩ := l.machine.tick_cases h
  · simp only [keypadUses, applied, sample?, ht]
    rfl
  · rw [keypadUses, sample?_of_cycle ht, ht, Outcome.state_mapError, Machine.keypad_cycle]
    rfl

lemma keypad_next : (next h lim s).keypad = s.keypad.uses (s.keypadUses h) := by
  have hpoll (l : Loop τ η) :
      (next h lim (poll l)).keypad = l.machine.processor.keypad.uses ((poll l).keypadUses h) := by
    have hs : (poll l).sample? h = none := rfl
    rw [keypad_poll, keypadUses, Keypad.uses, hs]
    simp [applied, List.foldl_map, Keypad.use]
  fun_cases next h lim s with
  | case1 l m hp | case2 l m hp =>
    have hn := hpoll l
    rw [next, hp] at hn
    exact hn
  | case12 budget left l e m hm | case13 budget left l i m hm =>
    have hn := keypad_tick (h := h) (l := l) budget left
    rw [hm] at hn
    exact hn
  | case3 l e l' hc | case4 l l' hc | case5 l l' hc =>
    have hk : (l.cancelled lim).state.machine.processor.keypad = l.machine.processor.keypad :=
      Loop.keypad_cancelled
    rw [hc] at hk
    exact hk
  | case9 budget left l e l' hc | case10 budget left l l' hc | case11 budget left l l' hc =>
    have hk : (l.cancelled lim).state.machine.processor.keypad = l.machine.processor.keypad :=
      Loop.keypad_cancelled
    rw [hc] at hk
    exact hk
  | case19 l m hs =>
    have hv : (Loop.endFrame h m).view = l.machine.view :=
      (Loop.view_endFrame h m).trans (Loop.view_showScreen hs)
    exact congrArg (fun v => v.1.keypad) hv
  | _ => rfl

lemma key_mem_keypadUses {e : KeyEvent} :
    .key e ∈ s.keypadUses h ↔ e ∈ s.applied h := by
  simp [keypadUses]

lemma sample_mem_keypadUses : .sample ∈ s.keypadUses h ↔ s.sample? h ≠ none := by
  simp [keypadUses, Option.ne_none_iff_exists']

lemma sample?_of_unlatches {u : KeypadUse} (hu : u ∈ s.keypadUses h) (hl : u.Unlatches) :
    s.sample? h ≠ none := by
  cases u with
  | key e => exact hl.elim
  | releaseAll => simp [keypadUses] at hu
  | sample => exact sample_mem_keypadUses.mp hu

lemma keys_of_sample? {keys : KeySample} (hs : s.sample? h = some keys) :
    keys = s.keypad.sample.1 := by
  cases s with
  | cycle budget left l =>
    rw [sample?] at hs
    split at hs
    · cases hs
    · cases hs
      rfl
  | _ => cases hs

lemma sample?_of_applied {e : KeyEvent} (he : e ∈ s.applied h) : s.sample? h = none := by
  cases s with
  | poll l => rfl
  | _ => cases he

lemma sample?_of_calledOff (hs : s.CalledOff) : s.sample? h = none := by
  cases s with
  | cycle budget left l => exact hs.elim
  | _ => rfl

lemma heard_poll {queue : η → List WindowEvent} (lim : Limits τ η) (hq : h.HandsOver queue)
    (hw : h.hasWindow l.machine.host = true) :
    ∃ stays, WindowEvent.Heard (queue l.machine.host) ((poll l).applied h) stays ∧
      (next h lim (poll l)).loop.machine.running = (l.machine.running && stays) := by
  have hp := hq l.machine.host
  rcases hx : h.poll l.machine.host with ⟨p, host⟩
  rw [hx] at hp
  change p = _ at hp
  have ha : (poll l).applied h = (WindowEvent.readQueue (queue l.machine.host)).1 := by
    rw [applied, Loop.polled, if_pos hw, hx, hp]
  refine ⟨(WindowEvent.readQueue (queue l.machine.host)).2, ?_, ?_⟩
  · rw [ha]
    exact WindowEvent.heard_readQueue _
  · obtain ⟨keypad, journal, hk⟩ := Machine.applyKeys_eq { l.machine with host }
      (WindowEvent.readQueue (queue l.machine.host)).1
    rw [next, Loop.pollWindow, if_pos hw, hx, hp]
    cases (WindowEvent.readQueue (queue l.machine.host)).2 <;>
      simp [hk, loop, Machine.stop]

end Stage

namespace Machine

variable [TimeScale τ] (h : Host τ η) (lim : Limits τ η) (m : Machine τ η)

def keypadUses (i j : ℕ) : List KeypadUse :=
  (List.Ico i j).flatMap fun n => (m.stage h lim n).keypadUses h

variable {h lim m} {i j n : ℕ} {k : Digit}

lemma mem_keypadUses {u : KeypadUse} :
    u ∈ m.keypadUses h lim i j ↔ ∃ n, i ≤ n ∧ n < j ∧ u ∈ (m.stage h lim n).keypadUses h := by
  simp [keypadUses, and_assoc]

lemma keypad_stage (hij : i ≤ j) :
    (m.stage h lim j).keypad = (m.stage h lim i).keypad.uses (m.keypadUses h lim i j) := by
  induction j, hij using Nat.le_induction with
  | base =>
    rw [keypadUses, List.Ico.self_empty]
    rfl
  | succ j hij ih =>
    rw [stage_succ, Stage.keypad_next, ih, ← Keypad.uses_append, keypadUses, keypadUses,
      List.Ico.succ_top hij, List.flatMap_append, List.flatMap_singleton]

lemma keypadUses_eq (hij : i < j) :
    m.keypadUses h lim i j = (m.stage h lim i).keypadUses h ++ m.keypadUses h lim (i + 1) j := by
  rw [keypadUses, List.Ico.eq_cons hij, List.flatMap_cons]
  rfl

lemma latched_stage (hk : .press k ∈ (m.stage h lim i).applied h) (hij : i < j)
    (hn : ∀ n, i < n → n < j → (m.stage h lim n).sample? h = none) :
    (m.stage h lim j).keypad.latched.get k = true := by
  rw [keypad_stage hij.le]
  refine Keypad.latched_of_pressed ?_ fun u hu hl => ?_
  · exact mem_keypadUses.mpr ⟨i, le_rfl, hij, Stage.key_mem_keypadUses.mpr hk⟩
  · obtain ⟨n, hin, hnj, hu⟩ := mem_keypadUses.mp hu
    refine Stage.sample?_of_unlatches hu hl ?_
    obtain rfl | hin := hin.eq_or_lt
    · exact Stage.sample?_of_applied hk
    · exact hn n hin hnj

lemma idle_stage {c : ℕ} {earlier later : List KeyEvent}
    (hk : (m.stage h lim i).applied h = earlier ++ .release k :: later) (hl : .press k ∉ later)
    (hic : i < c) (hcj : c < j) (hc : (m.stage h lim c).sample? h ≠ none)
    (hn : ∀ n, i < n → n < j → .press k ∉ (m.stage h lim n).applied h) :
    (m.stage h lim j).keypad.Idle k := by
  have hs : (m.stage h lim i).sample? h = none :=
    Stage.sample?_of_applied (hk ▸ List.mem_append_right _ List.mem_cons_self)
  have hu : m.keypadUses h lim i j = earlier.map .key ++ .key (.release k) ::
      (later.map .key ++ m.keypadUses h lim (i + 1) j) := by
    rw [keypadUses_eq (hic.trans hcj), Stage.keypadUses, hk, hs]
    simp
  rw [keypad_stage (hic.trans hcj).le, hu, Keypad.uses_append]
  -- the key is up behind its release, and the sample at `c` takes its latch
  refine Keypad.idle_of_sampled (p := Keypad.use _ (.key (.release k))) Keypad.use_release.1 ?_ ?_
  · exact List.mem_append_right _
      (mem_keypadUses.mpr ⟨c, hic, hcj, Stage.sample_mem_keypadUses.mpr hc⟩)
  · rw [List.mem_append]
    rintro (hp | hp)
    · simp [hl] at hp
    · obtain ⟨n, hin, hnj, hp⟩ := mem_keypadUses.mp hp
      exact hn n hin hnj (Stage.key_mem_keypadUses.mp hp)

lemma lt_of_applied {o : Outcome Failure (Loop τ η) Unit} {e : KeyEvent}
    (ho : m.stage h lim i = .ended o) (he : e ∈ (m.stage h lim j).applied h) : j < i := by
  by_contra hij
  rw [stage_of_ended ho (not_lt.mp hij)] at he
  cases he

/-- What the window hands over is applied to the keys up to the event with which the user leaves. A
press is in the next sample, in this run or behind it; a key that was released last is in no sample
after the next. -/
theorem run_hears {queue : η → List WindowEvent} (hq : h.HandsOver queue) (lim : Limits τ η)
    (m : Machine τ η) :
    (∀ i l, m.stage h lim i = .poll l → h.hasWindow l.machine.host = true →
      ∃ stays, WindowEvent.Heard (queue l.machine.host) ((m.stage h lim i).applied h) stays ∧
        (stays = false ↔ ∃ e ∈ queue l.machine.host, e.Leaves) ∧
        (m.stage h lim (i + 1)).keypad =
          ((m.stage h lim i).applied h).foldl Keypad.apply l.machine.processor.keypad ∧
        (m.stage h lim (i + 1)).loop.machine.running = (l.machine.running && stays)) ∧
    (∀ i j (k : Digit) keys, .press k ∈ (m.stage h lim i).applied h → i < j →
      (∀ n, i < n → n < j → (m.stage h lim n).sample? h = none) →
      (m.stage h lim j).sample? h = some keys → keys.get k = true) ∧
    (∀ i c j (k : Digit) earlier later keys,
      (m.stage h lim i).applied h = earlier ++ .release k :: later → .press k ∉ later →
      i < c → c < j → (m.stage h lim c).sample? h ≠ none →
      (∀ n, i < n → n < j → .press k ∉ (m.stage h lim n).applied h) →
      (m.stage h lim j).sample? h = some keys → keys.get k = false) ∧
    ∀ fuel o, m.run h lim fuel = some o →
      ∃ e i, m.stage h lim i = .ended e ∧ o = Loop.finish h e ∧
        ∀ i (k : Digit), .press k ∈ (m.stage h lim i).applied h →
          (∀ n, i < n → (m.stage h lim n).sample? h = none) →
          o.state.processor.keys.get k = true := by
  refine ⟨fun i l hi hw => ?_, fun i j k keys hk hij hn hj => ?_,
    fun i c j k earlier later keys hk hl hic hcj hc hn hj => ?_, fun fuel o hr => ?_⟩
  · obtain ⟨stays, hheard, hrunning⟩ := Stage.heard_poll lim hq hw
    rw [stage_succ, hi]
    exact ⟨stays, hheard, hheard.stays_iff, Stage.keypad_poll, hrunning⟩
  · rw [Stage.keys_of_sample? hj]
    exact Keypad.sample_eq_true_iff.mpr (.inr (latched_stage hk hij hn))
  · rw [Stage.keys_of_sample? hj]
    exact Keypad.idle_iff.mp (idle_stage hk hl hic hcj hc hn)
  · obtain ⟨i, e, he, rfl, -⟩ := ended_of_run hr
    refine ⟨e, i, he, rfl, fun j k hk hn => ?_⟩
    have hij : j < i := lt_of_applied he hk
    have hl : (m.stage h lim i).keypad.latched.get k = true :=
      latched_stage hk hij fun n hjn _ => hn n hjn
    obtain ⟨fault, journal, hf⟩ := Loop.finish_state h e
    rw [he] at hl
    rw [hf]
    exact Keypad.sample_eq_true_iff.mpr (.inr hl)

/-- Two instructions a second. The program waits for a key while key 1 is tapped in a turn without a
cycle; later the user presses key 2 and leaves. -/
def knocking : Machine ℚ (Desktop ℚ) :=
  let tap : List WindowEvent := [.other, .keyDown 49, .keyUp 49]
  let farewell : List WindowEvent := [.keyDown 50, .keyDown 27, .keyDown 51]
  let host : Desktop ℚ := Desktop.start 0 (1 / 8) [[], [], [], [], tap, [], [], farewell]
  { circling (0 : ℚ) { host with window := some ⟨10, .standard, none⟩ } with
    processor := .booted [0xF2, 0x0A, 0x12, 0x02]
    schedule := ⟨0, some ⟨2, 1 / 2, 0⟩, ⟨60, 1 / 60, 0⟩⟩ }

def knocked (k : ℕ) : Stage ℚ (Desktop ℚ) := knocking.stage Desktop.host ⟨none, none⟩ k

theorem knocking_heard :
    (∃ l, knocked 50 = .poll l ∧ (knocked 51).loop.machine.running = false) ∧
      (∃ keys, (knocked 38).sample? Desktop.host = some keys ∧ keys.get 1 = true) ∧
      (∃ keys, (knocked 46).sample? Desktop.host = some keys ∧ keys.get 1 = false) ∧
      ∃ m, knocking.run Desktop.host ⟨none, none⟩ 8 = some (.done 4 m) ∧
        m.processor.keys.get 2 = true := by
  have hq : Desktop.host.HandsOver fun d : Desktop ℚ => d.queues.head?.getD [] := fun _ => rfl
  have htap : (knocked 28).applied Desktop.host = [.press 1, .release 1] := by decide +kernel
  have hbetween : ∀ n < 38, 28 < n → (knocked n).sample? Desktop.host = none := by decide +kernel
  have hbehind : ∀ n < 46, 28 < n → (knocked n).applied Desktop.host = [] := by decide +kernel
  have hsamples : ((knocked 38).sample? Desktop.host).isSome ∧
      ((knocked 46).sample? Desktop.host).isSome := by
    decide +kernel
  have hlast : (knocked 50).isPoll = true ∧
      (knocked 50).loop.machine.host.window.isSome ∧
      (knocked 50).loop.machine.host.queues = [[.keyDown 50, .keyDown 27, .keyDown 51]] ∧
      (knocked 50).applied Desktop.host = [.press 2] ∧
      (knocked 50).verdict? Desktop.host ⟨none, none⟩ = some ⟨true, false⟩ := by
    decide +kernel
  have ha : (knocking.run Desktop.host ⟨none, none⟩ 8).map Outcome.answer = some (.ok 4) := by
    decide +kernel
  obtain ⟨hpoll, hpress, hrelease, hrun⟩ := run_hears hq ⟨none, none⟩ knocking
  obtain ⟨keys₁, h₁⟩ := Option.isSome_iff_exists.mp hsamples.1
  obtain ⟨keys₂, h₂⟩ := Option.isSome_iff_exists.mp hsamples.2
  obtain ⟨hp, hw, hqueue, hfarewell, hv⟩ := hlast
  refine ⟨?_, ⟨keys₁, h₁, ?_⟩, ⟨keys₂, h₂, ?_⟩, ?_⟩
  · cases hl : knocked 50 with
    | poll l =>
      rw [hl] at hw hqueue
      change l.machine.host.queues = _ at hqueue
      obtain ⟨stays, -, hs, -, hr⟩ := hpoll 50 l hl hw
      have hleaves : stays = false := by
        refine hs.mpr ⟨.keyDown 27, ?_, .inr rfl⟩
        rw [hqueue]
        decide
      refine ⟨l, rfl, hr.trans ?_⟩
      rw [hleaves, Bool.and_false]
    | _ =>
      rw [hl] at hp
      cases hp
  · refine hpress 28 38 1 keys₁ ?_ (by decide) (fun n hn hj => hbetween n hj hn) h₁
    exact htap ▸ List.mem_cons_self
  · refine hrelease 28 38 46 1 [.press 1] [] keys₂ htap (by simp) (by decide) (by decide) ?_ ?_ h₂
    · exact Option.ne_none_iff_exists'.mpr ⟨keys₁, h₁⟩
    · intro n hn hj
      rw [show (knocking.stage _ _ n).applied _ = [] from hbehind n hj hn]
      simp
  · obtain ⟨o, ho, hv'⟩ := Option.map_eq_some_iff.mp ha
    obtain ⟨m, rfl⟩ := Outcome.answer_eq_ok.mp hv'
    obtain ⟨e, i, -, -, hlate⟩ := hrun 8 _ ho
    refine ⟨m, ho, hlate 50 2 (hfarewell ▸ List.mem_cons_self) fun n hn => ?_⟩
    have hoff : (knocked 51).CalledOff := by
      rw [knocked, stage_succ]
      exact Stage.calledOff_of_verdict hv rfl
    exact Stage.sample?_of_calledOff (calledOff_stage hoff hn)

end Machine

end ChipEight
