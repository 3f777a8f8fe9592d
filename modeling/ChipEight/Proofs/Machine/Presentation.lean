import ChipEight.Host.Scripted
import ChipEight.Proofs.Processor.Drawing
import ChipEight.Proofs.Processor.Runs
import ChipEight.Proofs.Machine.Recorded

/-!
The window shows what is on the screen, and is given a frame only if something was drawn or erased
since the last. A screen that does not count as dirty is the frame that was last shown.
-/

namespace ChipEight

variable {τ η : Type}

def Call.frame? : Call → Option Framebuffer
  | present f => some f
  | _ => none

def Recorded.frames (s : Recorded η) : List Framebuffer := s.calls.filterMap Call.frame?

lemma Outcome.completed_mapError {ε ε' σ α : Type} (f : ε → ε') (o : Outcome ε σ (Option α)) :
    (o.mapError f).completed = o.completed := by
  cases o <;> rfl

namespace Machine

variable (m : Machine τ η)

lemma repainted_cycle :
    m.processor.screen.Repainted (m.cycle.completed.any m.processor.repaints)
      m.cycle.state.processor.screen := by
  have hs := m.processor.repainted_cycle
  rw [cycle]
  dsimp only [report]
  cases hc : m.processor.cycle with
  | failed f p =>
    rw [hc] at hs
    exact hs
  | done r p =>
    rw [hc] at hs
    exact hs

lemma repainted_tick [TimeScale τ] (h : Host τ η) :
    m.processor.screen.Repainted ((m.tick h).completed.any m.processor.repaints)
      (m.tick h).state.processor.screen := by
  obtain ⟨timer, m', hm, ht⟩ := m.tick_cases h
  have hs : m'.processor.screen = m.processor.screen := by rw [hm]
  have hd : m'.processor.repaints = m.processor.repaints := by
    rw [hm]
    rfl
  obtain ⟨e, ht⟩ | ht := ht
  all_goals rw [ht]
  · exact hs
  · have hr := m'.repainted_cycle
    rw [hs, hd] at hr
    rwa [Outcome.state_mapError, Outcome.completed_mapError]

end Machine

/-- What is done with a machine. Between two uses a window may be attached, or anything else may
happen to the surroundings. -/
inductive Use (τ η : Type) where
  | cycle
  | tick
  | key (e : KeyEvent)
  | arrange (g : η → η)
  | run (lim : Limits τ η)

inductive Moment (τ η : Type) where
  | idle (m : Machine τ (Recorded η))
  | amid (lim : Limits τ η) (s : Stage τ (Recorded η))

namespace Moment

def machine : Moment τ η → Machine τ (Recorded η)
  | idle m => m
  | amid _ s => s.loop.machine

def screen (s : Moment τ η) : Framebuffer := s.machine.processor.screen

def frames (s : Moment τ η) : List Framebuffer := s.machine.host.frames

variable [TimeScale τ] (h : Host τ η) (u : Use τ η)

def next : Moment τ η → Moment τ η
  | idle m =>
    match u with
    | .cycle => idle m.cycle.state
    | .tick => idle (m.tick h.recorded).state
    | .key e => idle (m.applyKey e)
    | .arrange g => idle { m with host := { m.host with host := g m.host.host } }
    | .run lim => amid lim (.poll (Loop.start h.recorded m))
  | amid _ (.ended o) => idle (Loop.finish h.recorded o).state
  | amid lim s => amid lim (s.next h.recorded lim.recorded)

def repaints : Moment τ η → Bool
  | idle m =>
    match u with
    | .cycle => m.cycle.completed.any m.processor.repaints
    | .tick => (m.tick h.recorded).completed.any m.processor.repaints
    | _ => false
  | amid _ (.cycle _ _ l) =>
    (l.machine.tick h.recorded).completed.any l.machine.processor.repaints
  | amid _ _ => false

def presents : Moment τ η → Bool
  | amid _ (.frame l) =>
    h.hasWindow l.machine.host.host && (Loop.showScreen h.recorded l.machine).isOk
  | _ => false

variable {h u}

omit [TimeScale τ] in
lemma frames_shut (s : Recorded η) : (h.recorded.shut s).2.frames = s.frames := by
  have hnote (s : Recorded η) (c : Call) (host : η) (hc : c.frame? = none) :
      (s.note c host).frames = s.frames := by
    simp [Recorded.note, Recorded.frames, hc]
  have hs : (h.recorded.silence s).frames = s.frames := by
    rw [Host.silence]
    split
    · exact hnote _ _ _ rfl
    · rfl
  rw [Host.shut]
  split
  · exact (hnote _ _ _ rfl).trans hs
  · exact hs

omit [TimeScale τ] in
lemma keeps_frames (lim : Limits τ η) (fs : List Framebuffer) :
    h.recorded.Keeps lim.recorded fun s => True ∧ s.frames = fs := by
  have hk : h.Keeps lim fun _ => True :=
    ⟨fun _ _ => trivial, fun _ _ _ => trivial, fun _ _ => trivial, fun _ _ _ => trivial,
      fun _ _ _ _ _ => trivial⟩
  refine hk.recorded (Q := fun cs => cs.filterMap Call.frame? = fs) (fun cs hc => ?_)
    fun on cs hc => ?_
  · simpa [Call.frame?, List.filterMap_cons] using hc
  · simpa [Call.frame?, List.filterMap_cons] using hc

/-- The screen is painted on, or it remains, or it is shown as it is. Whether it is painted on, and
whether there is a presentation, are the answers. -/
inductive Steps (s t : Moment τ η) : Bool → Bool → Prop where
  | painted (hd : t.screen.dirty = true) (hf : t.frames = s.frames) : Steps s t true false
  | kept {presented : Bool} (hp : presented = true → s.screen.dirty = false)
      (hs : t.screen = s.screen) (hf : t.frames = s.frames) : Steps s t false presented
  | shown (hd : s.screen.dirty = true) (hs : t.screen = s.screen.markShown)
      (hf : t.frames = s.frames ++ [s.screen]) : Steps s t false true

variable {s t : Moment τ η}

omit [TimeScale τ] in
lemma Steps.of_repainted {painted : Bool} (hr : s.screen.Repainted painted t.screen)
    (hf : t.frames = s.frames) : Steps s t painted false := by
  cases painted with
  | false => exact .kept nofun hr hf
  | true => exact .painted hr hf

lemma frames_tick (m : Machine τ (Recorded η)) :
    (m.tick h.recorded).state.host.frames = m.host.frames := by
  obtain ⟨processor, journal, hm⟩ := m.tick_state h.recorded
  rw [hm]
  rfl

lemma steps_quiet {lim : Limits τ η} {s : Stage τ (Recorded η)} (hs : s.quiet = true) :
    Steps (amid lim s) (amid lim (s.next h.recorded lim.recorded)) false false := by
  obtain ⟨-, hf⟩ := Stage.keeps_next (s := s) (keeps_frames (h := h) lim s.loop.machine.host.frames)
    (fun l hl => by simp [hl, Stage.quiet] at hs) ⟨trivial, rfl⟩
  refine .kept nofun ?_ hf
  obtain ⟨budget, left, l, rfl, -⟩ | ⟨l, rfl, -⟩ |
    ⟨-, keypad, journal, host, running, schedule, hn⟩ := Stage.next_cases h.recorded lim.recorded s
  · cases hs
  · cases hs
  · exact congrArg (fun m => m.processor.screen) hn

lemma steps_frame {lim : Limits τ η} (l : Loop τ (Recorded η)) :
    Steps (amid lim (.frame l)) (amid lim ((Stage.frame l).next h.recorded lim.recorded)) false
      (presents h (amid lim (.frame l))) := by
  rw [presents, Stage.next]
  cases hm : Loop.showScreen h.recorded l.machine with
  | error e =>
    rw [Except.isOk, Except.toBool, Bool.and_false]
    exact .kept (fun hp => absurd hp Bool.false_ne_true) rfl rfl
  | ok m =>
    have he : (Loop.endFrame h.recorded m).processor.screen = m.processor.screen ∧
        (Loop.endFrame h.recorded m).host.frames = m.host.frames := by
      obtain ⟨-, hf⟩ := Loop.keeps_endFrame (m := m) (keeps_frames (h := h) lim m.host.frames)
        ⟨trivial, rfl⟩
      obtain ⟨journal, hj⟩ := Loop.endFrame_eq h.recorded m
      exact ⟨congrArg (fun m => m.processor.screen) hj, hf⟩
    obtain ⟨rfl, hn⟩ | ⟨hw, hd, host, hp, rfl⟩ := Loop.showScreen_ok h.recorded l.machine hm
    · refine .kept (fun hw => ?_) he.1 he.2
      rw [Bool.and_eq_true] at hw
      exact Bool.eq_false_iff.mpr fun hd => hn ⟨hw.1, hd⟩
    · have hw' : h.hasWindow l.machine.host.host = true := hw
      obtain ⟨-, hc⟩ := Host.present_recorded hp
      rw [hw']
      refine .shown hd he.1 (he.2.trans ?_)
      change host.calls.filterMap Call.frame? = _
      rw [hc, List.filterMap_append]
      rfl

lemma steps_next (s : Moment τ η) : Steps s (s.next h u) (s.repaints h u) (s.presents h) := by
  cases s with
  | idle m =>
    cases u with
    | cycle =>
      obtain ⟨processor, journal, hm⟩ := m.cycle_state
      have hh : m.cycle.state.host = m.host := by rw [hm]
      exact .of_repainted m.repainted_cycle (congrArg Recorded.frames hh)
    | tick => exact .of_repainted (m.repainted_tick h.recorded) (frames_tick m)
    | key e => exact .kept nofun rfl rfl
    | arrange g => exact .kept nofun rfl rfl
    | run lim => exact .kept nofun rfl rfl
  | amid lim s =>
    cases s with
    | ended o =>
      obtain ⟨fault, journal, hf⟩ := Loop.finish_state h.recorded o
      refine .kept nofun ?_ ?_
      · exact congrArg (fun m => m.processor.screen) hf
      · exact (congrArg (fun m => m.host.frames) hf).trans (frames_shut _)
    | cycle budget left l =>
      have hn : ((Stage.cycle budget left l).next h.recorded lim.recorded).loop.machine =
          (l.machine.tick h.recorded).state := by
        rw [Stage.next]
        cases l.machine.tick h.recorded <;> rfl
      refine .of_repainted ?_ ?_
      · have hr := l.machine.repainted_tick h.recorded
        rw [← hn] at hr
        exact hr
      · have hf := frames_tick (h := h) l.machine
        rw [← hn] at hf
        exact hf
    | frame l => exact steps_frame l
    | _ => exact steps_quiet rfl

def Fresh (s : Moment τ η) : Prop := ∃ f, s.frames.getLast? = some f ∧ f.rows = s.screen.rows

omit [TimeScale τ] in
lemma Steps.fresh {painted presented : Bool} (hst : Steps s t painted presented)
    (hs : s.screen.dirty = false → s.Fresh) :
    (t.screen.dirty = false → t.Fresh) ∧ (presented = true → t.Fresh) := by
  cases hst with
  | painted hd hf => simp [hd]
  | kept hp hs' hf =>
    have ht (hd : s.screen.dirty = false) : t.Fresh := by
      rw [Fresh, hs', hf]
      exact hs hd
    exact ⟨fun hd => ht (by rwa [← hs']), fun hq => ht (hp hq)⟩
  | shown hd hs' hf =>
    have ht : t.Fresh := ⟨s.screen, by rw [hf, List.getLast?_concat], by rw [hs']; rfl⟩
    exact ⟨fun _ => ht, fun _ => ht⟩

omit [TimeScale τ] in
lemma Steps.frames_of_clean {painted presented : Bool} (hst : Steps s t painted presented)
    (hs : s.screen.dirty = false) : t.frames = s.frames := by
  cases hst with
  | painted hd hf => exact hf
  | kept hp hs' hf => exact hf
  | shown hd hs' hf => cases hs.symm.trans hd

omit [TimeScale τ] in
lemma Steps.clean {presented : Bool} (hst : Steps s t false presented)
    (hs : s.screen.dirty = false) : t.screen.dirty = false := by
  cases hst with
  | kept hp hs' hf => rwa [hs']
  | shown hd hs' hf => rw [hs']; rfl

omit [TimeScale τ] in
lemma Steps.clean_of_frames {painted presented : Bool} (hst : Steps s t painted presented)
    (hf : t.frames ≠ s.frames) : t.screen.dirty = false := by
  cases hst with
  | painted hd hf' => exact absurd hf' hf
  | kept hp hs' hf' => exact absurd hf' hf
  | shown hd hs' hf' => rw [hs']; rfl

end Moment

namespace Machine

variable [TimeScale τ] (h : Host τ η) (us : ℕ → Use τ η) (m : Machine τ η)

def history : ℕ → Moment τ η
  | 0 => .idle m.recorded
  | k + 1 => (history k).next h (us k)

variable {h us m}

lemma history_amid {k n : ℕ} {lim : Limits τ η} {s : Stage τ (Recorded η)}
    (hk : m.history h us k = .amid lim s)
    (hn : ∀ j < n, ∀ o, Stage.after h.recorded lim.recorded j s ≠ .ended o) :
    m.history h us (k + n) = .amid lim (Stage.after h.recorded lim.recorded n s) := by
  induction n with
  | zero => exact hk
  | succ n ih =>
    have hs := ih fun j hj => hn j (by omega)
    have hgo := hn n (by omega)
    rw [← Nat.add_assoc, history, hs, Stage.after_succ]
    cases ha : Stage.after h.recorded lim.recorded n s with
    | ended o => exact absurd ha (hgo o)
    | _ => rfl

lemma history_run {k fuel : ℕ} {q : Machine τ (Recorded η)} {lim : Limits τ η}
    {o : Outcome Failure (Machine τ (Recorded η)) ℕ} (hk : m.history h us k = .idle q)
    (hu : us k = .run lim) (hr : q.run h.recorded lim.recorded fuel = some o) :
    ∃ j > k, m.history h us j = .idle o.state := by
  obtain ⟨e, he, rfl⟩ := Option.map_eq_some_iff.mp hr
  have hl : Stage.Leads h.recorded lim.recorded (.poll (Loop.start h.recorded q)) (.ended e) :=
    Stage.leads_turns he
  have hbegun : m.history h us (k + 1) = .amid lim (.poll (Loop.start h.recorded q)) := by
    rw [history, hk, hu, Moment.next]
  classical
  have hfirst : ∀ j < Nat.find hl, ∀ o, Stage.after h.recorded lim.recorded j
      (.poll (Loop.start h.recorded q)) ≠ .ended o := by
    intro j hj o hs
    -- once a run is over it stays so, and with the same outcome
    have hlast := Nat.find_spec hl
    have hsplit : Nat.find hl = Nat.find hl - j + j := by omega
    rw [hsplit, Stage.after_add, hs, Stage.after_ended] at hlast
    exact Nat.find_min hl hj (hs.trans hlast)
  have hend := history_amid hbegun hfirst
  rw [Nat.find_spec hl] at hend
  refine ⟨k + 1 + Nat.find hl + 1, by omega, ?_⟩
  rw [history, hend, Moment.next]

lemma fresh_history (hd : m.processor.screen.dirty = true) (k : ℕ) :
    (m.history h us k).screen.dirty = false → (m.history h us k).Fresh := by
  induction k with
  | zero =>
    intro hk
    cases hd.symm.trans hk
  | succ k ih => exact ((m.history h us k).steps_next.fresh ih).1

lemma repaints_before_frame {i j : ℕ} (hi : (m.history h us i).screen.dirty = false) (hij : i ≤ j)
    (hj : (m.history h us (j + 1)).frames ≠ (m.history h us j).frames) :
    ∃ k, i ≤ k ∧ k < j ∧ (m.history h us k).repaints h (us k) = true := by
  by_contra! hn
  have hclean (k : ℕ) (hk : i ≤ k) (hkj : k ≤ j) : (m.history h us k).screen.dirty = false := by
    induction k, hk using Nat.le_induction with
    | base => exact hi
    | succ k hk ih =>
      have hs := (m.history h us k).steps_next (h := h) (u := us k)
      have hd : (m.history h us k).repaints h (us k) = false := by simpa using hn k hk (by omega)
      rw [hd] at hs
      exact hs.clean (ih (by omega))
  have hs := (m.history h us j).steps_next (h := h) (u := us j)
  exact hj (hs.frames_of_clean (hclean j hij le_rfl))

omit [TimeScale τ] in
lemma dirty_of_loadRom {path : String} {found : Entry} {n : ℕ} {m' : Machine τ η}
    (hl : m.loadRom path found = .ok (n, m')) (hd : m.processor.screen.dirty = true) :
    m'.processor.screen.dirty = true := by
  rw [loadRom] at hl
  split at hl
  · cases hl
  · cases hl
    exact hd

omit [TimeScale τ] in
lemma dirty_of_loadGlyphs {table : List UInt8} {m' : Machine τ η}
    (hl : m.loadGlyphs table = .ok m') (hd : m.processor.screen.dirty = true) :
    m'.processor.screen.dirty = true := by
  rw [loadGlyphs] at hl
  split at hl
  · cases hl
  · cases hl
    exact hd

lemma dirty_of_start? {setup : Setup} {host : η} {journal : Journal}
    {program : Option (String × Entry)} (hm : (start? h setup host journal program).2 = .ok m) :
    m.processor.screen.dirty = true := by
  rw [start?] at hm
  dsimp only at hm
  split at hm
  · cases hm
  · rename_i processor hp
    obtain ⟨stack, source, -, rfl⟩ := Processor.start?_eq_ok hp
    split at hm
    · cases hm
    · split at hm
      · cases hm
      · rename_i m₁ hg
        have h₁ : m₁.processor.screen.dirty = true := dirty_of_loadGlyphs hg rfl
        split at hm
        · cases hm
          exact h₁
        · split at hm
          · cases hm
          · rename_i n m₂ hl
            cases hm
            have h₂ : m₂.processor.screen.dirty = true := dirty_of_loadRom hl h₁
            exact h₂

theorem presented_fresh {setup : Setup} {host : η} {journal : Journal}
    {program : Option (String × Entry)} (hm : (start? h setup host journal program).2 = .ok m)
    (us : ℕ → Use τ η) :
    (∀ k, (m.history h us k).presents h = true → (m.history h us (k + 1)).Fresh) ∧
    (∀ i j, i < j → (m.history h us (i + 1)).frames ≠ (m.history h us i).frames →
      (m.history h us (j + 1)).frames ≠ (m.history h us j).frames →
      ∃ k, i < k ∧ k < j ∧ (m.history h us k).repaints h (us k) = true) ∧
    ∀ k, (m.history h us k).screen.dirty = false → (m.history h us k).Fresh := by
  have hd : m.processor.screen.dirty = true := dirty_of_start? hm
  refine ⟨fun k hp => ?_, fun i j hij hi hj => ?_, fun k => fresh_history hd k⟩
  · exact ((m.history h us k).steps_next.fresh (fresh_history hd k)).2 hp
  · have hclean : (m.history h us (i + 1)).screen.dirty = false :=
      (m.history h us i).steps_next.clean_of_frames hi
    exact repaints_before_frame hclean hij hj

def erasing : Except (StartError ℚ) (Machine ℚ (ScriptedHost ℚ)) :=
  (start? ScriptedHost.host { Setup.standard with instructionRate := none }
    (.start 0 (1 / 100) (some ⟨none, none, [], 0, 0, []⟩) false) (.empty .error)
    (some ("erasing", .file [0x00, 0xE0, 0x12, 0x00]))).2

def endless (_ : ℕ) : Use ℚ (ScriptedHost ℚ) := .run ⟨none, none⟩

theorem erasing_fresh :
    ∃ m, erasing = .ok m ∧
      (∀ k ∈ [8, 16, 24], (m.history ScriptedHost.host endless (k + 1)).Fresh) ∧
      (∃ k, 8 < k ∧ k < 24 ∧
        (m.history ScriptedHost.host endless k).repaints ScriptedHost.host (endless k) = true) ∧
      (m.history ScriptedHost.host endless 20).Fresh := by
  have hchecks : erasing.toOption.map (fun m =>
      let s := m.history ScriptedHost.host endless
      ([8, 16, 24].all fun k => (s k).presents ScriptedHost.host,
        [8, 9, 24, 25].map fun k => (s k).frames.length, (s 20).screen.dirty)) =
      some (true, [0, 1, 1, 2], false) := by
    decide +kernel
  cases hm : erasing with
  | error e =>
    rw [hm] at hchecks
    cases hchecks
  | ok m =>
    rw [hm] at hchecks
    obtain ⟨hp, hf⟩ := Prod.mk.inj (Option.some.inj hchecks)
    obtain ⟨hf, hd⟩ := Prod.mk.inj hf
    obtain ⟨hshown, hbetween, hclean⟩ := presented_fresh hm endless
    refine ⟨m, rfl, fun k hk => hshown k (List.all_eq_true.mp hp k hk), ?_, hclean 20 hd⟩
    simp only [List.map_cons, List.cons.injEq] at hf
    obtain ⟨h₈, h₉, h₂₄, h₂₅, -⟩ := hf
    refine hbetween 8 24 (by decide) (fun he => ?_) fun he => ?_
    · rw [congrArg List.length he, h₈] at h₉
      cases h₉
    · rw [congrArg List.length he, h₂₄] at h₂₅
      cases h₂₅

end Machine

end ChipEight
