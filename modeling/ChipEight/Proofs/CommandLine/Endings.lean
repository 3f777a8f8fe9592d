import ChipEight.CommandLine.Session
import ChipEight.Proofs.Machine.Failures
import ChipEight.Proofs.Memory.Listing
import ChipEight.Proofs.Processor.Shown

/-!
How a session at the command line ends. What keeps a program from being loaded and what it fails by
are told in the output; a listing that goes past the end of memory is not.
-/

namespace ChipEight

section Start

variable {τ η : Type} [TimeScale τ]

section Rates

variable {now : τ} {rate frameRate : ℤ}

lemma Cadence.ofFrequency?_whole (hr : 0 < rate) (hf : TimeScale.fits τ rate = true) :
    ∃ c, ofFrequency? (.whole rate) now = .ok c := by
  simp [ofFrequency?, Frequency.positive, hr, hf]

namespace Schedule

lemma start?_of_ne (hr : rate ≠ 0) :
    start? now (some rate) frameRate =
      match Cadence.ofFrequency? (.whole rate) now with
      | .error e => .error e
      | .ok c =>
        (Cadence.ofFrequency? (.whole frameRate) now).map fun frames => ⟨now, some c, frames⟩ := by
  simp only [start?]
  cases Cadence.ofFrequency? (.whole rate) now with
  | error e => rfl
  | ok c => cases Cadence.ofFrequency? (.whole frameRate) now <;> rfl

lemma start?_ok (hr : 0 ≤ rate) (hf : 0 < rate → TimeScale.fits τ rate = true)
    (hp : 0 < frameRate) (hs : TimeScale.fits τ frameRate = true) :
    ∃ s, start? now (some rate) frameRate = .ok s := by
  obtain ⟨frames, hc⟩ : ∃ c, Cadence.ofFrequency? (.whole frameRate) now = .ok c :=
    Cadence.ofFrequency?_whole hp hs
  obtain rfl | hr := hr.eq_or_lt
  · exact ⟨⟨now, none, frames⟩, by simp [start?, hc]⟩
  · obtain ⟨c, hi⟩ : ∃ c, Cadence.ofFrequency? (.whole rate) now = .ok c :=
      Cadence.ofFrequency?_whole hr (hf hr)
    rw [start?_of_ne hr.ne', hi, hc]
    exact ⟨_, rfl⟩

lemma start?_of_neg (hr : rate < 0) :
    start? now (some rate) frameRate = .error (.notPositive (.whole rate)) := by
  have hn : Cadence.ofFrequency? (.whole rate) now = .error (.notPositive (.whole rate)) := by
    simp [Cadence.ofFrequency?, Frequency.positive, hr.le]
  rw [start?_of_ne hr.ne, hn]

lemma start?_of_not_fits (hr : 0 < rate) (hf : TimeScale.fits τ rate = false) :
    start? now (some rate) frameRate = .error .tooLarge := by
  have hn : Cadence.ofFrequency? (.whole rate) now = .error .tooLarge := by
    simp [Cadence.ofFrequency?, Frequency.positive, hr, hf]
  rw [start?_of_ne hr.ne', hn]

end Schedule

end Rates

namespace Machine

variable {h : Host τ η} {setup : Setup} {host : η} {journal : Journal} {processor : Processor τ}
  {path : String} {found : Entry}

lemma start?_of_frequency {e : BadFrequency τ} (hp : Processor.start? setup = .ok processor)
    (hs : Schedule.start? (h.readClock host).1 setup.instructionRate setup.frameRate = .error e)
    (program : Option (String × Entry)) :
    (start? h setup host journal program).2 = .error (.frequency e) := by
  simp only [start?, hp, hs]

lemma start?_program {schedule : Schedule τ} (hp : Processor.start? setup = .ok processor)
    (hs : Schedule.start? (h.readClock host).1 setup.instructionRate setup.frameRate =
      .ok schedule)
    (hg : setup.glyphs.length = Glyphs.tableSize) :
    (∃ e, Rom.read? path found = .error e ∧
        (start? h setup host journal (some (path, found))).2 = .error (.load e)) ∨
      ∃ rom m, Rom.read? path found = .ok rom ∧
        (start? h setup host journal (some (path, found))).2 = .ok m ∧
        m.processor.registers = processor.registers := by
  simp only [start?, hp, hs, loadGlyphs, Memory.loadGlyphs, hg, if_true, loadRom]
  cases hr : Rom.read? path found with
  | error e => exact .inl ⟨e, rfl, rfl⟩
  | ok rom => exact .inr ⟨rom, _, rfl, rfl, rfl⟩

end Machine

end Start

lemma Glyphs.length_of_read? {path : String} {found : Entry} {table : List UInt8}
    (hr : read? path found = .ok table) : table.length = tableSize := by
  cases found with
  | file bytes =>
    rw [read?] at hr
    split at hr
    · cases hr
      assumption
    · cases hr
  | _ => cases hr

namespace CommandLine

variable {τ : Type} [TimeScale τ] {w : Workplace τ} {a : Arguments} {path : String}

/-- What keeps the program behind a path from being loaded, in words. The glyph table is read first,
then the rate is looked at, and the program is read last. -/
def obstacle? (files : String → Entry) (a : Arguments) (path : String) : Option String :=
  match glyphs? files a with
  | .error e => some e.message
  | .ok _ =>
    if a.rate < 0 then some ("Frecuencia inválida: " ++ toString a.rate)
    else
      match Rom.read? path (files path) with
      | .error e => some e.message
      | .ok _ => none

omit [TimeScale τ] in
lemma length_of_glyphs? {files : String → Entry} {reports : List Report} {table : List UInt8}
    (hg : glyphs? files a = .ok (reports, table)) : table.length = Glyphs.tableSize := by
  rw [glyphs?] at hg
  split at hg
  · cases hg
    decide
  · rename_i path _
    cases hr : Glyphs.read? path (files path) with
    | error e =>
      rw [hr] at hg
      cases hg
    | ok bytes =>
      rw [hr] at hg
      cases hg
      exact Glyphs.length_of_read? hr

lemma start?_setup (table : List UInt8) :
    ∃ p : Processor τ, Processor.start? (a.setup table) = .ok p ∧ p.registers = .initial :=
  ⟨_, rfl, rfl⟩

def begin? (w : Workplace τ) (a : Arguments) (reports : List Report) (table : List UInt8)
    (path : String) : Journal × Except (StartError τ) (Machine τ (Desktop τ)) :=
  Machine.start? Desktop.host (a.setup table) (Desktop.start w.start w.step w.events)
    ((Journal.empty (a.level?.getD w.level)).add reports) (some (path, w.files path))

/-- The rate is larger than any time; only a glyph table that cannot be read comes before it. -/
def TooFast (w : Workplace τ) (a : Arguments) : Prop :=
  (∃ path, a.programPath? = some path) ∧ (∃ read, glyphs? w.files a = .ok read) ∧
    0 < a.rate ∧ TimeScale.fits τ a.rate = false

section Prepare

variable {reports : List Report} {table : List UInt8}

lemma prepare_of_error {e : StartError τ} (hp : a.programPath? = some path)
    (hg : glyphs? w.files a = .ok (reports, table))
    (hs : (begin? w a reports table path).2 = .error e) :
    ∃ j, prepare w a =
      match e with
      | .frequency .tooLarge => .over ⟨banner, j, .aborted (.frequency .tooLarge)⟩
      | e => .over ⟨banner ++ loadFailure e.message, j, .exit 1⟩ := by
  rw [begin?] at hs
  simp only [prepare, hp, hg]
  rcases hm : Machine.start? _ _ _ _ _ with ⟨j, r⟩
  rw [hm] at hs
  change r = .error e at hs
  subst hs
  refine ⟨j, ?_⟩
  cases e with
  | frequency e => cases e <;> rfl
  | _ => rfl

lemma prepare_of_ok {m : Machine τ (Desktop τ)} (hp : a.programPath? = some path)
    (hg : glyphs? w.files a = .ok (reports, table))
    (hs : (begin? w a reports table path).2 = .ok m) : prepare w a = proceed w a banner m := by
  rw [begin?] at hs
  simp only [prepare, hp, hg]
  rcases hm : Machine.start? _ _ _ _ _ with ⟨j, r⟩
  rw [hm] at hs
  change r = .ok m at hs
  subst hs
  rfl

lemma begin?_of_neg (hr : a.rate < 0) :
    (begin? w a reports table path).2 = .error (.frequency (.notPositive (.whole a.rate))) := by
  obtain ⟨p, hs, -⟩ : ∃ p : Processor τ, Processor.start? (a.setup table) = .ok p ∧ _ :=
    start?_setup table
  exact Machine.start?_of_frequency hs (Schedule.start?_of_neg hr) _

lemma begin?_of_not_fits (hr : 0 < a.rate) (hf : TimeScale.fits τ a.rate = false) :
    (begin? w a reports table path).2 = .error (.frequency .tooLarge) := by
  obtain ⟨p, hs, -⟩ : ∃ p : Processor τ, Processor.start? (a.setup table) = .ok p ∧ _ :=
    start?_setup table
  exact Machine.start?_of_frequency hs (Schedule.start?_of_not_fits hr hf) _

lemma prepare_of_tooFast (h : TooFast w a) :
    ∃ j, prepare w a = .over ⟨banner, j, .aborted (.frequency .tooLarge)⟩ := by
  obtain ⟨⟨path, hp⟩, ⟨read, hg⟩, hr, hf⟩ := h
  exact prepare_of_error hp hg (begin?_of_not_fits hr hf)

variable (hframes : TimeScale.fits τ Schedule.defaultFrameRate = true)
  (hfits : 0 < a.rate → TimeScale.fits τ a.rate = true)

include hframes hfits

variable (w path reports) in
lemma begin?_of_fits (hr : 0 ≤ a.rate) (ht : table.length = Glyphs.tableSize) :
    (∃ e, Rom.read? path (w.files path) = .error e ∧
        (begin? w a reports table path).2 = .error (.load e)) ∨
      ∃ rom m, Rom.read? path (w.files path) = .ok rom ∧
        (begin? w a reports table path).2 = .ok m ∧ m.processor.registers = .initial := by
  obtain ⟨p, hs, hp⟩ : ∃ p : Processor τ, Processor.start? (a.setup table) = .ok p ∧ _ :=
    start?_setup table
  obtain ⟨schedule, hc⟩ : ∃ s, Schedule.start? (w.start + w.step) (some a.rate)
      Schedule.defaultFrameRate = .ok s := Schedule.start?_ok hr hfits (by decide) hframes
  rw [← hp]
  exact Machine.start?_program hs hc ht

lemma prepare_program (hp : a.programPath? = some path) :
    (∃ message j, obstacle? w.files a path = some message ∧
        prepare w a = .over ⟨banner ++ loadFailure message, j, .exit 1⟩) ∨
      obstacle? w.files a path = none ∧
        ∃ m, prepare w a = proceed w a banner m ∧ m.processor.registers = .initial := by
  rw [obstacle?]
  cases hg : glyphs? w.files a with
  | error e =>
    simp only [prepare, hp, hg]
    exact .inl ⟨_, _, rfl, rfl⟩
  | ok read =>
    obtain ⟨reports, table⟩ := read
    dsimp only
    by_cases hr : a.rate < 0
    · obtain ⟨j, hj⟩ := prepare_of_error hp hg (begin?_of_neg hr)
      rw [if_pos hr]
      exact .inl ⟨_, j, rfl, hj⟩
    · rw [if_neg hr]
      obtain ⟨e, he, hs⟩ | ⟨rom, m, he, hs, hm⟩ :=
        begin?_of_fits w path reports hframes hfits (not_lt.mp hr) (length_of_glyphs? hg)
      · obtain ⟨j, hj⟩ := prepare_of_error hp hg hs
        rw [he]
        exact .inl ⟨_, j, rfl, hj⟩
      · rw [he]
        exact .inr ⟨rfl, m, prepare_of_ok hp hg hs, hm⟩

end Prepare

section Proceed

variable {m : Machine τ (Desktop τ)} (output : String)

omit [TimeScale τ] in
lemma proceed_lists (hl : a.listing ≠ 0) (hm : m.processor.registers = .initial) :
    (a.listing ≤ 1792 → ∃ output', proceed w a output m = .over ⟨output', m.journal, .exit 0⟩) ∧
      (1792 < a.listing → ∃ output', proceed w a output m =
        .over ⟨output', m.journal, .aborted (.failure (.fault (.memory 0x1000 2)))⟩) := by
  have hpc : (m.processor.registers.pc.toNat : ℤ) = 0x200 := by
    rw [hm]
    rfl
  simp only [proceed, hpc, hl, ne_eq, not_false_eq_true, if_true]
  refine ⟨fun h => ?_, fun h => ?_⟩
  · obtain ⟨ls, he⟩ : ∃ ls, m.processor.memory.listing 0x200 a.listing.toNat = .ok ls :=
      Memory.listing_ok (by decide) (by omega)
    rw [he]
    exact ⟨_, rfl⟩
  · have he : m.processor.memory.listing 0x200 a.listing.toNat = .error (.memory 0x1000 2) :=
      Memory.listing_error (k := 1792) (by decide) (by decide) (by omega)
    rw [he]
    exact ⟨_, rfl⟩

lemma beeper_opens (d : SoundDevice) :
    ∃ r, Beeper.open? SquareWave.defaultFrequency d = .ok r := by
  cases d with
  | missing reason => exact ⟨_, rfl⟩
  | present channels =>
    have hw : (SquareWave.ofFrequency? SquareWave.defaultFrequency SquareWave.defaultSampleRate
        SquareWave.defaultVolume).toOption = some ⟨8191, 25, 25⟩ := by
      decide +kernel
    rw [Beeper.open?]
    cases hs : SquareWave.ofFrequency? SquareWave.defaultFrequency SquareWave.defaultSampleRate
        SquareWave.defaultVolume with
    | error e =>
      rw [hs] at hw
      cases hw
    | ok wave => exact ⟨_, rfl⟩

def Roomy (d : Desktop τ) : Prop := ∀ window ∈ d.window, window.pictureBytes ≤ Storage.limit

/-- The window of a session opens, and there is storage for its pictures. -/
def Opens (a : Arguments) : Prop :=
  ∃ window, Window.open? a.scale = .ok window ∧ window.pictureBytes ≤ Storage.limit

omit [TimeScale τ] in
lemma proceed_runs (hl : a.listing = 0) (hw : Opens a) :
    (∃ output', proceed w a output m = .over ⟨output', m.journal, .exit 1⟩) ∨
      ∃ output' m', proceed w a output m = .ready output' m' ∧ Roomy m'.host := by
  obtain ⟨window, ho, hb⟩ := hw
  obtain ⟨⟨reports, beeper⟩, hs⟩ := beeper_opens w.sound
  simp only [proceed, hl, ne_eq, not_true_eq_false, if_false]
  cases hwin : w.windows with
  | false => exact .inl ⟨_, rfl⟩
  | true =>
    refine .inr ?_
    simp only [openDesktop?, ho, hs]
    cases a.mute with
    | false => exact ⟨_, _, rfl, fun _ hv => by cases hv; exact hb⟩
    | true => exact ⟨_, _, rfl, fun _ hv => by cases hv; exact hb⟩

end Proceed

def Loads (w : Workplace τ) (a : Arguments) : Prop :=
  ∃ path, a.programPath? = some path ∧ obstacle? w.files a path = none ∧
    (0 < a.rate → TimeScale.fits τ a.rate = true)

lemma prepare_cases (hframes : TimeScale.fits τ Schedule.defaultFrameRate = true) (hw : Opens a) :
    ((Loads w a ∧ 1792 < a.listing) ∧ ∃ output j,
        prepare w a = .over ⟨output, j, .aborted (.failure (.fault (.memory 0x1000 2)))⟩) ∨
      ¬ (Loads w a ∧ 1792 < a.listing) ∧
        ((∃ output j, ∃ status ≤ 1, prepare w a = .over ⟨output, j, .exit status⟩) ∨
          (TooFast w a ∧
            ∃ j, prepare w a = .over ⟨banner, j, .aborted (.frequency .tooLarge)⟩) ∨
          a.listing = 0 ∧ ∃ output m, prepare w a = .ready output m ∧ Roomy m.host) := by
  cases hp : a.programPath? with
  | none =>
    refine .inr ⟨?_, .inl ?_⟩
    · rintro ⟨⟨path, hl, -⟩, -⟩
      cases hp.symm.trans hl
    · simp only [prepare, hp]
      exact ⟨_, _, 1, le_rfl, rfl⟩
  | some path =>
    have hloads : Loads w a ↔ obstacle? w.files a path = none ∧
        (0 < a.rate → TimeScale.fits τ a.rate = true) := by
      simp [Loads, hp]
    rw [hloads]
    by_cases hfits : 0 < a.rate → TimeScale.fits τ a.rate = true
    · obtain ⟨message, j, ho, hj⟩ | ⟨ho, m, he, hm⟩ := prepare_program hframes hfits hp
      · rw [ho]
        exact .inr ⟨by simp, .inl ⟨_, j, 1, le_rfl, hj⟩⟩
      · rw [he]
        by_cases hl : a.listing = 0
        · refine .inr ⟨by omega, ?_⟩
          obtain ⟨output, hr⟩ | hr : (∃ output, _) ∨ _ :=
            proceed_runs (w := w) (m := m) banner hl hw
          · exact .inl ⟨output, _, 1, le_rfl, hr⟩
          · exact .inr (.inr ⟨hl, hr⟩)
        · obtain ⟨hshort, hlong⟩ := proceed_lists (w := w) banner hl hm
          by_cases hn : 1792 < a.listing
          · obtain ⟨output, hr⟩ := hlong hn
            exact .inl ⟨⟨⟨ho, hfits⟩, hn⟩, output, _, hr⟩
          · obtain ⟨output, hr⟩ := hshort (not_lt.mp hn)
            exact .inr ⟨fun hc => hn hc.2, .inl ⟨output, _, 0, zero_le_one, hr⟩⟩
    · obtain ⟨hr, hf⟩ := Classical.not_imp.mp hfits
      rw [Bool.not_eq_true] at hf
      refine .inr ⟨fun hc => hfits hc.1.2, ?_⟩
      cases hg : glyphs? w.files a with
      | error e =>
        simp only [prepare, hp, hg]
        exact .inl ⟨_, _, 1, le_rfl, rfl⟩
      | ok read =>
        have ht : TooFast w a := ⟨⟨path, hp⟩, ⟨read, hg⟩, hr, hf⟩
        exact .inr (.inl ⟨ht, prepare_of_tooFast ht⟩)

lemma keeps_roomy : (Desktop.host (τ := τ)).Keeps noLimits Roomy :=
  ⟨fun _ hd => hd, fun _ _ hd => hd, fun _ hd => hd, fun _ _ hd => hd, nofun⟩

omit [TimeScale τ] in
lemma present_roomy {f : Framebuffer} {d : Desktop τ} (hd : Roomy d) :
    ∃ d', d.present f = .ok d' ∧ Roomy d' := by
  rw [Desktop.present]
  cases hw : d.window with
  | none => exact ⟨d, rfl, hd⟩
  | some window =>
    have hb : window.pictureBytes ≤ Storage.limit := hd window hw
    simp only [Window.present?, not_lt.mpr hb, if_false]
    exact ⟨_, rfl, fun _ hv => by cases hv; exact hb⟩

omit [TimeScale τ] in
def Stage.machine? : Stage τ → Option (Machine τ (Desktop τ))
  | .ready _ m => some m
  | .over _ => none

omit [TimeScale τ] in
lemma Stage.machine?_eq_some_iff {s : Stage τ} {m : Machine τ (Desktop τ)} :
    s.machine? = some m ↔ ∃ output, s = .ready output m := by
  cases s <;> simp [machine?]

def Outruns (fuel : ℕ) (w : Workplace τ) (a : Arguments) (e : NotFinite) : Prop :=
  ∃ m m' k, (prepare w a).machine? = some m ∧
    m.run Desktop.host noLimits fuel = some (.failed (.clock e) m') ∧
    (m.stage Desktop.host noLimits k).Fails Desktop.host noLimits (.clock e)

section Execute

variable {fuel : ℕ} {t : Transcript τ} {output : String} {m m' : Machine τ (Desktop τ)}

lemma execute_of_run {o : Outcome Failure (Machine τ (Desktop τ)) ℕ}
    (hm : prepare w a = .ready output m) (ho : m.run Desktop.host noLimits fuel = some o) :
    execute fuel w a = some (conclude output o) := by
  rw [execute, hm]
  exact congrArg (Option.map (conclude output)) ho

lemma execute_ending (hframes : TimeScale.fits τ Schedule.defaultFrameRate = true) (hw : Opens a)
    (hr : execute fuel w a = some t) :
    (Loads w a ∧ 1792 < a.listing) ∧
        t.ending = .aborted (.failure (.fault (.memory 0x1000 2))) ∨
      ¬ (Loads w a ∧ 1792 < a.listing) ∧
        ((∃ status ≤ 1, t.ending = .exit status) ∨
          TooFast w a ∧ t.ending = .aborted (.frequency .tooLarge) ∨
          ∃ e, Outruns fuel w a e ∧ t.ending = .aborted (.failure (.clock e))) := by
  obtain ⟨hc, output, j, hj⟩ | ⟨hc, ⟨output, j, status, hle, hj⟩ | ⟨ht, j, hj⟩ |
    ⟨-, output, m, hm, hroom⟩⟩ := prepare_cases (w := w) hframes hw
  · rw [execute, hj] at hr
    cases hr
    exact .inl ⟨hc, rfl⟩
  · rw [execute, hj] at hr
    cases hr
    exact .inr ⟨hc, .inl ⟨status, hle, rfl⟩⟩
  · rw [execute, hj] at hr
    cases hr
    exact .inr ⟨hc, .inr (.inl ⟨ht, rfl⟩)⟩
  · refine .inr ⟨hc, ?_⟩
    rw [execute, hm] at hr
    obtain ⟨o, ho, rfl⟩ := Option.map_eq_some_iff.mp hr
    cases o with
    | done n m' => exact .inl ⟨0, zero_le_one, rfl⟩
    | failed e m' =>
      obtain ⟨f, rfl⟩ | ⟨e, k, rfl, hb⟩ :=
        Machine.run_failed rfl keeps_roomy (fun f d hd => present_roomy hd) hroom ho
      · exact .inl ⟨1, le_rfl, rfl⟩
      · exact .inr (.inr ⟨e, ⟨m, m', k, by rw [hm]; rfl, ho, hb⟩, rfl⟩)

variable (hframes : TimeScale.fits τ Schedule.defaultFrameRate = true)
  (hr : execute fuel w a = some t)

include hframes hr

lemma told_of_obstacle {message : String} (hpath : a.programPath? = some path)
    (hm : obstacle? w.files a path = some message)
    (hfits : 0 < a.rate → TimeScale.fits τ a.rate = true) :
    t.output = banner ++ loadFailure message ∧ t.ending = .exit 1 := by
  obtain ⟨_, j, ho, hj⟩ | ⟨ho, -⟩ := prepare_program (w := w) hframes hfits hpath
  · cases hm.symm.trans ho
    rw [execute, hj] at hr
    cases hr
    exact ⟨rfl, rfl⟩
  · cases hm.symm.trans ho

variable (hw : Opens a)

include hw

lemma ending_fault_iff (f : Fault) :
    t.ending = .aborted (.failure (.fault f)) ↔
      (Loads w a ∧ 1792 < a.listing) ∧ f = .memory 0x1000 2 := by
  obtain ⟨hc, he⟩ | ⟨hc, ⟨status, -, he⟩ | ⟨-, he⟩ | ⟨e, -, he⟩⟩ := execute_ending hframes hw hr
  · simp [he, hc, eq_comm]
  all_goals simp [he, hc]

lemma ending_tooLarge_iff : t.ending = .aborted (.frequency .tooLarge) ↔ TooFast w a := by
  refine ⟨fun hf => ?_, fun ht => ?_⟩
  · obtain ⟨-, he⟩ | ⟨-, ⟨status, -, he⟩ | ⟨ht, -⟩ | ⟨e, -, he⟩⟩ := execute_ending hframes hw hr
    · cases hf.symm.trans he
    · cases hf.symm.trans he
    · exact ht
    · cases hf.symm.trans he
  · obtain ⟨j, hj⟩ := prepare_of_tooFast ht
    rw [execute, hj] at hr
    cases hr
    rfl

lemma ending_clock_iff (e : NotFinite) :
    t.ending = .aborted (.failure (.clock e)) ↔ Outruns fuel w a e := by
  refine ⟨fun hc => ?_, ?_⟩
  · obtain ⟨-, he⟩ | ⟨-, ⟨status, -, he⟩ | ⟨-, he⟩ | ⟨e', ho, he⟩⟩ := execute_ending hframes hw hr
    · cases hc.symm.trans he
    · cases hc.symm.trans he
    · cases hc.symm.trans he
    · cases hc.symm.trans he
      exact ho
  · rintro ⟨m, m', k, hm, ho, -⟩
    obtain ⟨output, hm⟩ := Stage.machine?_eq_some_iff.mp hm
    cases hr.symm.trans (execute_of_run hm ho)
    rfl

lemma ending_cases :
    (∃ status ≤ 1, t.ending = .exit status) ∨
      (∃ f, t.ending = .aborted (.failure (.fault f))) ∨
      t.ending = .aborted (.frequency .tooLarge) ∨
      ∃ e, t.ending = .aborted (.failure (.clock e)) := by
  obtain ⟨-, he⟩ | ⟨-, he | ⟨-, he⟩ | ⟨e, -, he⟩⟩ := execute_ending hframes hw hr
  · exact .inr (.inl ⟨_, he⟩)
  · exact .inl he
  · exact .inr (.inr (.inl he))
  · exact .inr (.inr (.inr ⟨e, he⟩))

end Execute

/-- A session that takes place ends with a status, or by one of three errors that nobody explains: a
listing that goes past the end of memory, a rate larger than any time, and a time of its run that
has no integer part. -/
theorem session_ends {fuel : ℕ} {w : Workplace Float} {arguments : List String}
    {t : Transcript Float} (hw : Opens a) (hp : Request.parse arguments = .ok (.execute a))
    (hr : perform fuel w arguments = some t) :
    (∀ path message, a.programPath? = some path → obstacle? w.files a path = some message →
      (0 < a.rate → TimeScale.fits Float a.rate = true) →
      t.output = banner ++ loadFailure message ∧ t.ending = .exit 1) ∧
    (∀ output m, prepare w a = .ready output m →
      (∀ n m', m.run Desktop.host noLimits fuel = some (.done n m') →
        t.output = output ∧ t.ending = .exit 0) ∧
      ∀ f m', m.run Desktop.host noLimits fuel = some (.failed (.fault f) m') →
        t.output = output ++ runFailure f ∧ t.ending = .exit 1) ∧
    (∀ f, t.ending = .aborted (.failure (.fault f)) ↔
      (Loads w a ∧ 1792 < a.listing) ∧ f = .memory 0x1000 2) ∧
    (t.ending = .aborted (.frequency .tooLarge) ↔ TooFast w a) ∧
    (∀ e, t.ending = .aborted (.failure (.clock e)) ↔ Outruns fuel w a e) ∧
    ((∃ status ≤ 1, t.ending = .exit status) ∨
      (∃ f, t.ending = .aborted (.failure (.fault f))) ∨
      t.ending = .aborted (.frequency .tooLarge) ∨
      ∃ e, t.ending = .aborted (.failure (.clock e))) := by
  have hframes : TimeScale.fits Float Schedule.defaultFrameRate = true := by decide +kernel
  rw [perform, hp] at hr
  change execute fuel w a = some t at hr
  refine ⟨fun path message hpath hm hfits => told_of_obstacle hframes hr hpath hm hfits,
    fun output m hm => ⟨fun n m' ho => ?_, fun f m' ho => ?_⟩, ending_fault_iff hframes hr hw,
    ending_tooLarge_iff hframes hr hw, ending_clock_iff hframes hr hw,
    ending_cases hframes hr hw⟩
  · cases hr.symm.trans (execute_of_run hm ho)
    exact ⟨rfl, rfl⟩
  · cases hr.symm.trans (execute_of_run hm ho)
    exact ⟨rfl, rfl⟩

lemma perform_of_listing {w : Workplace Float} {arguments : List String} (fuel : ℕ) (hw : Opens a)
    (hp : Request.parse arguments = .ok (.execute a)) (hl : a.listing ≠ 0) :
    ∃ t, perform fuel w arguments = some t := by
  have hframes : TimeScale.fits Float Schedule.defaultFrameRate = true := by decide +kernel
  rw [perform, hp]
  change ∃ t, execute fuel w a = some t
  rw [execute]
  obtain ⟨-, _, _, hj⟩ | ⟨-, ⟨_, _, _, -, hj⟩ | ⟨-, _, hj⟩ | ⟨hz, -⟩⟩ :=
    prepare_cases (w := w) hframes hw
  · rw [hj]
    exact ⟨_, rfl⟩
  · rw [hj]
    exact ⟨_, rfl⟩
  · rw [hj]
    exact ⟨_, rfl⟩
  · exact (hl hz).elim

def folder : Workplace Float where
  files path := if path = "t.ch8" then .file [0x00, 0xE0, 0x6A, 0x2F, 0x12, 0x02] else .missing
  windows := true
  sound := .missing "no device"
  level := .error
  events := []
  start := 0
  step := 0

def asked (program : String) (n : ℤ) : Arguments :=
  { Arguments.standard with program := some program, listing := n }

def quitting : Workplace Float := { folder with events := [[.quit]] }

theorem long_listing_escapes :
    (∃ t, perform 0 folder ["t.ch8", "--disassemble", "1793"] = some t ∧
      t.ending = .aborted (.failure (.fault (.memory 0x1000 2)))) ∧
      (∃ t, perform 0 folder ["u.ch8", "--disassemble", "1793"] = some t ∧
        t.output = banner ++ loadFailure "ROM no encontrada: u.ch8" ∧ t.ending = .exit 1) ∧
      ∃ t, perform 1 quitting ["t.ch8"] = some t ∧ t.ending = .exit 0 := by
  have hw (program : String) (n : ℤ) : Opens (asked program n) := ⟨_, rfl, by decide⟩
  have hfits : TimeScale.fits Float 700 = true := by decide +kernel
  have hp : Request.parse ["t.ch8", "--disassemble", "1793"] =
      .ok (.execute (asked "t.ch8" 1793)) := rfl
  have hq : Request.parse ["u.ch8", "--disassemble", "1793"] =
      .ok (.execute (asked "u.ch8" 1793)) := rfl
  have hv : Request.parse ["t.ch8"] = .ok (.execute (asked "t.ch8" 0)) := rfl
  have ha : ((prepare quitting (asked "t.ch8" 0)).machine?.bind fun m =>
      (m.run Desktop.host noLimits 1).map Outcome.answer) = some (.ok 0) := by
    decide +kernel
  obtain ⟨t, ht⟩ := perform_of_listing (w := folder) 0 (hw _ _) hp (by decide)
  obtain ⟨u, hu⟩ := perform_of_listing (w := folder) 0 (hw _ _) hq (by decide)
  obtain ⟨m, hm, ho⟩ := Option.bind_eq_some_iff.mp ha
  obtain ⟨output, hm⟩ := Stage.machine?_eq_some_iff.mp hm
  obtain ⟨o, ho, hd⟩ := Option.map_eq_some_iff.mp ho
  obtain ⟨m', rfl⟩ := Outcome.answer_eq_ok.mp hd
  have hx : perform 1 quitting ["t.ch8"] = some (conclude output (.done 0 m')) := by
    rw [perform, hv]
    exact execute_of_run hm ho
  obtain ⟨-, -, hf, -⟩ := session_ends (hw _ _) hp ht
  obtain ⟨hl, -⟩ := session_ends (hw _ _) hq hu
  obtain ⟨-, hrun, -⟩ := session_ends (hw _ _) hv hx
  refine ⟨⟨t, ht, (hf _).mpr ⟨⟨⟨"t.ch8", ?_, ?_, fun _ => hfits⟩, by decide⟩, rfl⟩⟩,
    ⟨u, hu, ?_⟩, _, hx, ((hrun output m hm).1 0 m' ho).2⟩
  · decide +kernel
  · decide +kernel
  · exact hl "u.ch8" _ (by decide +kernel) (by decide +kernel) fun _ => hfits

end CommandLine

end ChipEight
