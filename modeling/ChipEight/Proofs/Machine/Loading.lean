import ChipEight.Host.Scripted
import ChipEight.Proofs.Memory.Image
import ChipEight.Proofs.Processor.Runs

/-!
The loading of a machine. With a glyph table and a program every byte of its memory is known; a
program that is too long is cut, and says so. What cannot be loaded leaves the machine as it was.
-/

namespace ChipEight

variable {τ η : Type}

inductive Load where
  | program (path : String) (found : Entry)
  | glyphs (table : List UInt8)

def Load.Usable : Load → Prop
  | program _ found => ∃ bytes, found = .file bytes ∧ bytes ≠ []
  | glyphs table => table.length = 80

namespace Rom

variable {path : String} {found : Entry} {bytes : List UInt8}

lemma read?_file (hb : bytes ≠ []) : read? path (.file bytes) = .ok ⟨Disk.name path, bytes⟩ := by
  cases bytes with
  | nil => exact absurd rfl hb
  | cons b bs => rfl

lemma read?_eq_error_iff :
    (∃ e, read? path found = .error e) ↔ ¬ (Load.program path found).Usable := by
  cases found with
  | file bytes =>
    cases bytes with
    | nil => simp [read?, Load.Usable]
    | cons b bs => simp [read?, Load.Usable]
  | _ => simp [read?, Load.Usable]

lemma truncated_iff (r : Rom) :
    r.truncated = true ↔ (Memory.fitting r.bytes).length < r.bytes.length := by
  have hc : Memory.programCapacity = 3584 := rfl
  rw [truncated, decide_eq_true_iff, size, hc, Memory.length_fitting]
  omega

end Rom

namespace Machine

/-- A load that answers with the bytes of a program that were copied; if it fails, the machine is
the one that it found. -/
def load : Load → EStateM (StartError τ) (Machine τ η) (Option ℕ)
  | .program path found => do
    let (copied, m) ← ofExcept (((← get).loadRom path found).mapError .load)
    set m
    return some copied
  | .glyphs table => do
    set (← ofExcept (((← get).loadGlyphs table).mapError .glyphs))
    return none

variable {path : String} {found : Entry} {program table : List UInt8}

lemma run_load_program (m : Machine τ η) :
    (load (.program path found)).run m =
      match m.loadRom path found with
      | .error e => .error (.load e) m
      | .ok (n, m') => .ok (some n) m' := by
  simp only [load, bind_pure_comp, EStateM.run_bind, EStateM.run_get]
  cases m.loadRom path found <;> rfl

lemma run_load_glyphs (m : Machine τ η) :
    (load (.glyphs table)).run m =
      match m.loadGlyphs table with
      | .error e => .error (.glyphs e) m
      | .ok m' => .ok none m' := by
  simp only [load, bind_pure_comp, EStateM.run_bind, EStateM.run_get]
  cases m.loadGlyphs table <;> rfl

lemma loadRom_file (m : Machine τ η) (path : String) (hr : program ≠ []) :
    ∃ m', m.loadRom path (.file program) = .ok (min program.length 3584, m') ∧
      m'.rom = some ⟨Disk.name path, program⟩ ∧
      m'.processor.memory = (m.processor.memory.loadProgram program).2 := by
  rw [loadRom, Rom.read?_file hr, ← Memory.length_fitting]
  exact ⟨_, rfl, rfl, rfl⟩

lemma load_program (m : Machine τ η) (path : String) (hr : program ≠ []) :
    ∃ m', (load (.program path (.file program))).run m = .ok (some (min program.length 3584)) m' ∧
      m'.rom = some ⟨Disk.name path, program⟩ ∧
      m'.processor.memory = (m.processor.memory.loadProgram program).2 := by
  obtain ⟨m', hl, hm⟩ := m.loadRom_file path hr
  refine ⟨m', ?_, hm⟩
  rw [run_load_program, hl]

lemma load_glyphs (m : Machine τ η) (ht : table.length = 80) :
    ∃ m', (load (.glyphs table)).run m = .ok none m' ∧
      m.processor.memory.loadGlyphs table = .ok m'.processor.memory := by
  have hl : m.processor.memory.loadGlyphs table = _ := if_pos ht
  rw [run_load_glyphs, loadGlyphs, hl]
  exact ⟨_, rfl, rfl⟩

lemma load_of_usable (m : Machine τ η) {l : Load} (hl : l.Usable) :
    ∃ r m', (load l).run m = .ok r m' := by
  cases l with
  | program path found =>
    obtain ⟨program, rfl, hr⟩ := hl
    obtain ⟨m', hm, -⟩ := m.load_program path hr
    exact ⟨_, m', hm⟩
  | glyphs table =>
    obtain ⟨m', hm, -⟩ := m.load_glyphs hl
    exact ⟨none, m', hm⟩

lemma load_of_not_usable (m : Machine τ η) {l : Load} (hl : ¬ l.Usable) :
    ∃ e, (load l).run m = .error e m := by
  cases l with
  | program path found =>
    obtain ⟨e, he⟩ := Rom.read?_eq_error_iff.mpr hl
    exact ⟨.load e, by rw [run_load_program, loadRom, he]⟩
  | glyphs table =>
    have he : m.processor.memory.loadGlyphs table = .error ⟨table.length⟩ := if_neg hl
    exact ⟨.glyphs ⟨table.length⟩, by rw [run_load_glyphs, loadGlyphs, he]⟩

lemma load_comm (m : Machine τ η) (ht : table.length = 80) (hr : program ≠ []) :
    ∃ n m₁ m₂ m₁' m₂', (load (.glyphs table)).run m = .ok none m₁ ∧
      (load (.program path (.file program))).run m₁ = .ok (some n) m₂ ∧
      (load (.program path (.file program))).run m = .ok (some n) m₁' ∧
      (load (.glyphs table)).run m₁' = .ok none m₂' ∧
      m₂'.processor.memory = m₂.processor.memory ∧ m₂.processor.memory.cells.toList =
        Memory.imageIn m.processor.memory.cells.toList table program := by
  obtain ⟨m₁, h₁, hg⟩ := m.load_glyphs ht
  obtain ⟨m₂, h₂, -, hm⟩ := m₁.load_program path hr
  obtain ⟨m₁', h₁', -, hm'⟩ := m.load_program path hr
  obtain ⟨m₂', h₂', hg'⟩ := m₁'.load_glyphs ht
  have himage : m₂.processor.memory.cells.toList =
      Memory.imageIn m.processor.memory.cells.toList table program := by
    rw [hm]
    exact Memory.toList_imageIn ht hg
  refine ⟨_, m₁, m₂, m₁', m₂', h₁, h₂, h₁', h₂', ?_, himage⟩
  obtain ⟨memory, hl, hl'⟩ := m.processor.memory.loadGlyphs_loadProgram program ht
  rw [hm', hl'] at hg'
  rw [hl] at hg
  cases hg
  rw [hm]
  exact (Except.ok.inj hg').symm

section Start

variable [TimeScale τ] (h : Host τ η) (setup : Setup) (host : η) {processor : Processor τ}
  {schedule : Schedule τ}

variable (hp : Processor.start? setup = .ok processor)
  (hs : Schedule.start? (h.readClock host).1 setup.instructionRate setup.frameRate = .ok schedule)
  (hg : setup.glyphs.length = 80)

include hp hs hg

lemma start?_equipped (journal : Journal) :
    ∃ m : Machine τ η, Memory.zeros.loadGlyphs setup.glyphs = .ok m.processor.memory ∧
      (start? h setup host journal none).2 = .ok (m.report [.machineReady]) ∧
      ∀ path found, (start? h setup host journal (some (path, found))).2 =
        match m.loadRom path found with
        | .error e => .error (.load e)
        | .ok (_, m) => .ok (m.report [.machineReady]) := by
  obtain ⟨stack, source, -, rfl⟩ := Processor.start?_eq_ok hp
  have hl : Memory.zeros.loadGlyphs setup.glyphs = _ := if_pos hg
  have hm : (Processor.initial (τ := τ) stack source setup.options).memory = .zeros := rfl
  simp only [start?, hp, hs, loadGlyphs, hm, hl]
  refine ⟨_, rfl, rfl, fun path found => ?_⟩
  cases loadRom _ path found <;> rfl

/-- A machine that is made with a program holds the image of its glyphs and the program, and so does
one that is given the program later. A load is either usable, or it fails and changes nothing. -/
theorem loaded_image {program : List UInt8} (hr : program ≠ []) (journal : Journal)
    (path : String) :
    (∃ m, (start? h setup host journal (some (path, .file program))).2 = .ok m ∧
      m.processor.memory.cells.toList = Memory.image setup.glyphs program ∧
      m.rom = some ⟨Disk.name path, program⟩) ∧
    (∃ m r m', (start? h setup host journal none).2 = .ok m ∧
      (load (.program path (.file program))).run m = .ok r m' ∧
      m'.processor.memory.cells.toList = Memory.image setup.glyphs program) ∧
    (∀ m : Machine τ η, ∃ n rom m',
      (load (.program path (.file program))).run m = .ok (some n) m' ∧
        n = min program.length 3584 ∧ m'.rom = some rom ∧ rom.size = program.length ∧
        (rom.truncated = true ↔ n < program.length)) ∧
    (∀ (m : Machine τ η) table, table.length = 80 → ∃ n m₁ m₂ m₁' m₂',
      (load (.glyphs table)).run m = .ok none m₁ ∧
        (load (.program path (.file program))).run m₁ = .ok (some n) m₂ ∧
        (load (.program path (.file program))).run m = .ok (some n) m₁' ∧
        (load (.glyphs table)).run m₁' = .ok none m₂' ∧
        m₂'.processor.memory = m₂.processor.memory ∧ m₂.processor.memory.cells.toList =
          Memory.imageIn m.processor.memory.cells.toList table program) ∧
    ∀ (m : Machine τ η) l, l.Usable ∧ (∃ r m', (load l).run m = .ok r m') ∨
      ¬ l.Usable ∧ ∃ e m', (load l).run m = .error e m' ∧
        m'.processor.memory = m.processor.memory ∧ m'.rom = m.rom := by
  obtain ⟨m₀, hglyphs, hnone, hfile⟩ := start?_equipped h setup host hp hs hg journal
  refine ⟨?_, ?_, fun m => ?_, fun m table ht => m.load_comm ht hr, fun m l => ?_⟩
  · obtain ⟨m', hload, hrom, hmem⟩ := m₀.loadRom_file path hr
    refine ⟨m'.report [.machineReady], ?_, ?_, hrom⟩
    · rw [hfile, hload]
    · exact (congrArg (·.cells.toList) hmem).trans (Memory.toList_image hg hglyphs)
  · obtain ⟨m', hload, -, hmem⟩ := (m₀.report [.machineReady]).load_program path hr
    refine ⟨_, _, m', hnone, hload, ?_⟩
    exact (congrArg (·.cells.toList) hmem).trans (Memory.toList_image hg hglyphs)
  · obtain ⟨m', hm, hrom, -⟩ := m.load_program path hr
    refine ⟨_, _, m', hm, rfl, hrom, rfl, ?_⟩
    rw [Rom.truncated_iff, Memory.length_fitting]
  · by_cases hl : l.Usable
    · exact .inl ⟨hl, m.load_of_usable hl⟩
    · obtain ⟨e, he⟩ := m.load_of_not_usable hl
      exact .inr ⟨hl, e, m, he, rfl, rfl⟩

end Start

def overlong : List UInt8 := List.replicate 4000 0xFF

theorem overlong_loaded :
    (∃ m : Machine ℚ (ScriptedHost ℚ),
      (start? ScriptedHost.host Setup.standard (.start 0 1 none false) (.empty .error)
        (some ("overlong", .file overlong))).2 = .ok m ∧
      m.processor.memory.cells.toList =
        List.replicate 0x50 0 ++ Glyphs.standard ++ List.replicate 0x160 0 ++
          List.replicate 3584 0xFF) ∧
    ∀ m : Machine ℚ (ScriptedHost ℚ),
      (∃ rom m', (load (.program "overlong" (.file overlong))).run m = .ok (some 3584) m' ∧
        m'.rom = some rom ∧ rom.size = 4000 ∧ rom.truncated = true) ∧
      ∃ e m', (load (.program "overlong" (.file []))).run m = .error e m' ∧
        m'.processor.memory = m.processor.memory ∧ m'.rom = m.rom := by
  have hl : overlong.length = 4000 := List.length_replicate
  have hr : overlong ≠ [] := List.ne_nil_of_length_pos (by rw [hl]; decide)
  have hi : Memory.image Glyphs.standard overlong =
      List.replicate 0x50 0 ++ Glyphs.standard ++ List.replicate 0x160 0 ++
        List.replicate 3584 0xFF := by
    rw [Memory.image, hl, overlong, List.take_replicate]
    exact List.append_nil _
  obtain ⟨⟨m, hm, hmem, -⟩, -, hload, -, hfails⟩ := loaded_image ScriptedHost.host
    Setup.standard (.start (0 : ℚ) 1 none false) rfl rfl rfl hr (.empty .error) "overlong"
  refine ⟨⟨m, hm, ?_⟩, fun m => ⟨?_, ?_⟩⟩
  · rw [hmem]
    exact hi
  · obtain ⟨n, rom, m', h, hn, hrom, hs, ht⟩ := hload m
    rw [hl] at hn hs ht
    rw [hn] at h ht
    exact ⟨rom, m', h, hrom, hs, ht.mpr (by decide)⟩
  · obtain ⟨⟨bytes, he, hb⟩, -⟩ | ⟨-, hf⟩ := hfails m (.program "overlong" (.file []))
    · cases he
      exact absurd rfl hb
    · exact hf

end Machine

end ChipEight
