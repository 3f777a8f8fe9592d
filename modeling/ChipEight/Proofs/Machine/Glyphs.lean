import ChipEight.Proofs.Machine.Presentation
import ChipEight.Proofs.Processor.Glyphs

/-!
The glyph table in the life of a machine. It is the table that was loaded last for as long as no
instruction stores anything in its place, whatever programs are loaded; until then every digit can
be printed.
-/

namespace ChipEight

variable {τ η : Type} [TimeScale τ]

def Stage.Spares (h : Host τ η) : Stage τ η → Prop
  | cycle _ _ l => l.machine.processor.Spares (l.machine.tick h).completed
  | _ => True

namespace Machine

/-- The states of a machine in whose life `table` was the last glyph table to be loaded, and since
then no instruction has stored anything in its place. -/
inductive Lettered (h : Host τ η) : List UInt8 → Machine τ η → Prop
  | start {setup : Setup} {host : η} {journal : Journal} {program : Option (String × Entry)}
      {m : Machine τ η} :
      (start? h setup host journal program).2 = .ok m → Lettered h setup.glyphs m
  | loadProgram {table : List UInt8} {m : Machine τ η} (program : List UInt8) :
      Lettered h table m → Lettered h table (m.loadProgram program).2
  | loadRom {table : List UInt8} {m m' : Machine τ η} {path : String} {found : Entry} {n : ℕ} :
      Lettered h table m → m.loadRom path found = .ok (n, m') → Lettered h table m'
  | loadGlyphs {table table' : List UInt8} {m m' : Machine τ η} :
      Lettered h table m → m.loadGlyphs table' = .ok m' → Lettered h table' m'
  | key {table : List UInt8} {m : Machine τ η} (e : KeyEvent) :
      Lettered h table m → Lettered h table (m.applyKey e)
  | event {table : List UInt8} {m : Machine τ η} (e : Event τ) :
      Lettered h table m → Lettered h table { m with processor := m.processor.undergo e }
  | arrange {table : List UInt8} {m : Machine τ η} (host : η) :
      Lettered h table m → Lettered h table { m with host }
  | cycle {table : List UInt8} {m : Machine τ η} :
      Lettered h table m → m.processor.Spares m.cycle.completed → Lettered h table m.cycle.state
  | tick {table : List UInt8} {m : Machine τ η} :
      Lettered h table m → m.processor.Spares (m.tick h).completed →
        Lettered h table (m.tick h).state
  | begin {table : List UInt8} {m : Machine τ η} :
      Lettered h table m → Lettered h table (Loop.start h m).machine
  | stage {table : List UInt8} {s : Stage τ η} (lim : Limits τ η) :
      Lettered h table s.loop.machine → s.Spares h → Lettered h table (s.next h lim).loop.machine
  | finish {table : List UInt8} {o : Outcome Failure (Loop τ η) Unit} :
      Lettered h table o.state.machine → Lettered h table (Loop.finish h o).state

def glyphs (m : Machine τ η) : List UInt8 := m.processor.memory.glyphs

variable {h : Host τ η} {m m' : Machine τ η} {table : List UInt8}

omit [TimeScale τ] in
lemma glyphs_loadProgram (program : List UInt8) : (m.loadProgram program).2.glyphs = m.glyphs :=
  Memory.glyphs_loadProgram m.processor.memory program

omit [TimeScale τ] in
lemma glyphs_loadRom {path : String} {found : Entry} {n : ℕ}
    (hl : m.loadRom path found = .ok (n, m')) : m'.glyphs = m.glyphs := by
  rw [loadRom] at hl
  split at hl
  · cases hl
  · cases hl
    exact glyphs_loadProgram _

omit [TimeScale τ] in
lemma glyphs_loadGlyphs (hl : m.loadGlyphs table = .ok m') : m'.glyphs = table := by
  rw [loadGlyphs] at hl
  split at hl
  · cases hl
  · rename_i memory hm
    cases hl
    exact Memory.glyphs_loadGlyphs hm

lemma glyphs_start? {setup : Setup} {host : η} {journal : Journal}
    {program : Option (String × Entry)} (hm : (start? h setup host journal program).2 = .ok m) :
    m.glyphs = setup.glyphs := by
  rw [start?] at hm
  dsimp only at hm
  split at hm
  · cases hm
  · split at hm
    · cases hm
    · split at hm
      · cases hm
      · rename_i m₁ hg
        have h₁ := glyphs_loadGlyphs hg
        split at hm
        · cases hm
          exact h₁
        · split at hm
          · cases hm
          · rename_i n m₂ hl
            cases hm
            exact (glyphs_loadRom hl).trans h₁

omit [TimeScale τ] in
lemma glyphs_cycle (hd : m.processor.Spares m.cycle.completed) :
    m.cycle.state.glyphs = m.glyphs := by
  have hs := m.processor.glyphs_cycle
  rw [cycle] at hd ⊢
  dsimp only [report] at hd ⊢
  cases hc : m.processor.cycle with
  | failed f p =>
    rw [hc] at hs hd
    exact hs hd
  | done r p =>
    rw [hc] at hs hd
    exact hs hd

lemma glyphs_tick (hd : m.processor.Spares (m.tick h).completed) :
    (m.tick h).state.glyphs = m.glyphs := by
  obtain ⟨timer, m', rfl, ⟨e, ht⟩ | ht⟩ := m.tick_cases h
  · rw [ht]
    rfl
  · rw [ht, Outcome.completed_mapError] at hd
    rw [ht, Outcome.state_mapError]
    exact glyphs_cycle hd

lemma glyphs_next (lim : Limits τ η) {s : Stage τ η} (hd : s.Spares h) :
    (s.next h lim).loop.machine.glyphs = s.loop.machine.glyphs := by
  obtain ⟨budget, left, l, rfl, hn⟩ | ⟨l, rfl, hn | ⟨m, hs, hn⟩⟩ | ⟨-, k, j, host, r, sch, hn⟩ :=
    s.next_cases h lim
  · rw [hn]
    exact glyphs_tick hd
  · rw [hn]
    rfl
  · obtain ⟨journal, he⟩ := Loop.endFrame_eq h m
    rw [hn, he]
    obtain ⟨rfl, -⟩ | ⟨-, -, host, -, rfl⟩ := Loop.showScreen_ok h l.machine hs
    · rfl
    · rfl
  · rw [hn]
    rfl

lemma Lettered.glyphs_eq (hm : Lettered h table m) : m.glyphs = table := by
  induction hm with
  | start hm => exact glyphs_start? hm
  | loadProgram program _ ih => rw [glyphs_loadProgram, ih]
  | loadRom _ hl ih => rw [glyphs_loadRom hl, ih]
  | loadGlyphs _ hl _ => exact glyphs_loadGlyphs hl
  | key e _ ih => exact ih
  | event e _ ih => exact ih
  | arrange host _ ih => exact ih
  | cycle _ hd ih => rw [glyphs_cycle hd, ih]
  | tick _ hd ih => rw [glyphs_tick hd, ih]
  | begin _ ih => exact ih
  | stage lim _ hd ih => rw [glyphs_next lim hd, ih]
  | @finish _ o _ ih =>
    obtain ⟨fault, journal, he⟩ := Loop.finish_state h o
    rw [he]
    exact ih

theorem glyphs_printed (hm : Lettered h table m) :
    m.processor.memory.glyphs = table ∧
      (∀ i, m.processor.wait = none → m.processor.next? = .ok i → i.opcode = .ldFVx →
        ∃ t, m.processor.cycle = .done (some i) t ∧
          ∀ u j, t.Resumes u → u.next? = .ok j → j.opcode = .drw → j.n = 5 →
            ∃ w, u.cycle = .done (some j) w ∧
              Processor.Prints table ((m.processor.v i.x).toNat % 16) (m.processor.v j.x).toNat
                (m.processor.v j.y).toNat m.processor w) ∧
      ∀ (memory : Memory) (program : List UInt8),
        (memory.loadProgram program).2.glyphs = memory.glyphs ∧
          ∀ table' : List UInt8, table'.length = 80 →
            ∃ memory', memory.loadGlyphs table' = .ok memory' ∧ memory'.glyphs = table' ∧
              (memory'.loadProgram program).2.glyphs = table' := by
  refine ⟨hm.glyphs_eq, fun i hw hi ho => Processor.exists_prints hm.glyphs_eq hw hi ho,
    fun memory program => ⟨memory.glyphs_loadProgram program, fun table' hl => ?_⟩⟩
  obtain ⟨memory', hl'⟩ := memory.exists_loadGlyphs hl
  have hg := Memory.glyphs_loadGlyphs hl'
  exact ⟨memory', hl', hg, (memory'.glyphs_loadProgram program).trans hg⟩

def lettering : Except (StartError ℚ) (Machine ℚ (ScriptedHost ℚ)) :=
  (start? ScriptedHost.host Setup.standard (.start 0 1 none false) (.empty .error) none).2.map
    fun m => (m.loadProgram [0xF0, 0x29, 0xD0, 0x05]).2

lemma lettered_lettering {m : Machine ℚ (ScriptedHost ℚ)} (hm : lettering = .ok m) :
    Lettered ScriptedHost.host Glyphs.standard m := by
  rw [lettering] at hm
  cases hs : (start? ScriptedHost.host Setup.standard (.start (0 : ℚ) 1 none false) (.empty .error)
      none).2 with
  | error e =>
    rw [hs] at hm
    cases hm
  | ok m' =>
    rw [hs] at hm
    cases hm
    exact .loadProgram _ (.start hs)

def AboutToPrint (p : Processor ℚ) : Prop :=
  p.wait = none ∧ p.next? = .ok ⟨0xF029⟩ ∧ p.cycle.state.next? = .ok ⟨0xD005⟩ ∧
    (p.v (.last 0)).toNat = 0 ∧ p.screen.pixel 0 1 = false ∧ p.screen.pixel 1 1 = false

instance (p : Processor ℚ) : Decidable (AboutToPrint p) := inferInstanceAs (Decidable (_ ∧ _))

lemma exists_lettering : ∃ m, lettering = .ok m ∧ AboutToPrint m.processor := by
  have hb : lettering.toOption.all (fun m => decide (AboutToPrint m.processor)) = true := by
    decide +kernel
  have hs : lettering.toOption.isSome = true := by decide +kernel
  cases hm : lettering with
  | error e =>
    rw [hm] at hs
    cases hs
  | ok m =>
    rw [hm] at hb
    exact ⟨m, rfl, of_decide_eq_true hb⟩

theorem nought_printed :
    ∃ m t w, lettering = .ok m ∧ m.processor.cycle = .done (some ⟨0xF029⟩) t ∧
      t.cycle = .done (some ⟨0xD005⟩) w ∧
      w.screen.pixel 0 1 = true ∧ w.screen.pixel 1 1 = false := by
  obtain ⟨m, hm, hw, hi, hj, hv, h₀, h₁⟩ := exists_lettering
  obtain ⟨-, hp, -⟩ := glyphs_printed (lettered_lettering hm)
  obtain ⟨t, ht, hp⟩ := hp _ hw hi rfl
  rw [ht] at hj
  obtain ⟨w, hc, hs⟩ := hp t _ ⟨rfl, rfl, rfl, rfl⟩ hj rfl rfl
  have hx : (m.processor.v (Instruction.x ⟨0xD005⟩)).toNat = 0 := hv
  have hy : (m.processor.v (Instruction.y ⟨0xD005⟩)).toNat = 0 := hv
  have hd : (m.processor.v (Instruction.x ⟨0xF029⟩)).toNat % 16 = 0 := congrArg (· % 16) hv
  rw [hx, hy, hd] at hs
  refine ⟨m, t, w, hm, ht, hc, ?_, ?_⟩
  · have hi := hs.inside 1 (by decide) 0 (by decide) (by decide) (by decide)
    rw [Nat.zero_add, Nat.zero_add, h₀] at hi
    exact hi
  · have hi := hs.inside 1 (by decide) 1 (by decide) (by decide) (by decide)
    rw [Nat.zero_add, h₁] at hi
    exact hi

end Machine

end ChipEight
