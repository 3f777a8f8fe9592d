import ChipEight.Proofs.Framebuffer
import ChipEight.Proofs.Processor.Blocks
import ChipEight.Proofs.Processor.Drawing

/-!
The glyphs of the digits. Their table lies below the place of programs; the five bytes at the
address of a digit are the rows of its glyph, and drawn as a sprite they print it.
-/

namespace ChipEight

namespace Memory

def glyphs (m : Memory) : List UInt8 := m.slice glyphStart Glyphs.tableSize

def glyphPlace : Set ℤ := Set.Ico 0x050 0x0A0

variable {m m' : Memory} {table : List UInt8}

lemma length_slice (m : Memory) (a n : ℕ) : (m.slice a n).length = n := by simp [slice]

lemma glyphs_congr (h : ∀ k : ℕ, (k : ℤ) ∈ glyphPlace → m'.cell k = m.cell k) :
    m'.glyphs = m.glyphs := by
  refine List.map_congr_left fun k hk => h _ ?_
  rw [List.mem_range, Glyphs.tableSize] at hk
  rw [glyphPlace, Set.mem_Ico, glyphStart]
  omega

lemma glyphs_loadProgram (m : Memory) (program : List UInt8) :
    (m.loadProgram program).2.glyphs = m.glyphs := by
  refine glyphs_congr fun k hk => ?_
  rw [glyphPlace, Set.mem_Ico] at hk
  have hs : k < Memory.size := by
    change k < 0x1000
    omega
  have hp : ¬ programStart ≤ k := by
    change ¬ 0x200 ≤ k
    omega
  rw [loadProgram, cell_splice m _ _ hs, if_neg hp]

lemma glyphs_loadGlyphs (h : m.loadGlyphs table = .ok m') : m'.glyphs = table := by
  rw [loadGlyphs] at h
  split at h
  · rename_i hl
    cases h
    refine List.ext_getElem? fun k => ?_
    rcases lt_or_ge k Glyphs.tableSize with hk | hk
    · have hs : glyphStart + k < Memory.size := by
        change 0x050 + k < 0x1000
        change k < 80 at hk
        omega
      rw [glyphs, getElem?_slice _ _ hk, cell_splice m _ _ hs, if_pos (Nat.le_add_right _ k),
        Nat.add_sub_cancel_left, List.getElem?_eq_getElem (hl ▸ hk)]
      rfl
    · rw [List.getElem?_eq_none (by rwa [glyphs, length_slice]), List.getElem?_eq_none (hl ▸ hk)]
  · cases h

lemma exists_loadGlyphs (m : Memory) (h : table.length = Glyphs.tableSize) :
    ∃ m', m.loadGlyphs table = .ok m' := by
  rw [loadGlyphs, if_pos h]
  exact ⟨_, rfl⟩

lemma take_drop_slice (m : Memory) (a : ℕ) {n j k : ℕ} (h : j + k ≤ n) :
    ((m.slice a n).drop j).take k = m.slice (a + j) k := by
  refine List.ext_getElem? fun l => ?_
  rcases lt_or_ge l k with hl | hl
  · rw [List.getElem?_take_of_lt hl, List.getElem?_drop, getElem?_slice _ _ (by omega),
      getElem?_slice _ _ hl, Nat.add_assoc]
  · rw [List.getElem?_eq_none (by simp; omega), List.getElem?_eq_none (by rwa [length_slice])]

end Memory

namespace Glyphs

variable {table : List UInt8} {d r : ℕ}

def rows (table : List UInt8) (d : ℕ) : List UInt8 := (table.drop (d * height)).take height

lemma length_rows (h : table.length = tableSize) (hd : d < 16) :
    (rows table d).length = height := by
  rw [rows, List.length_take, List.length_drop, h]
  simp only [tableSize, height]
  omega

lemma getElem?_rows (hr : r < height) : (rows table d)[r]? = table[d * height + r]? := by
  rw [rows, List.getElem?_take_of_lt hr, List.getElem?_drop]

lemma slice_eq_rows (m : Memory) (hd : d < 16) :
    m.slice (Memory.glyphStart + d * height) height = rows m.glyphs d := by
  rw [rows, Memory.glyphs, Memory.take_drop_slice]
  simp only [height, tableSize]
  omega

end Glyphs

namespace Framebuffer

variable {f : Framebuffer} {x y : ℤ} {sprite : List UInt8} {r c px py : ℕ}

lemma cover_of_falls (h : Falls x y sprite r c px py) (hp : px < width) :
    (cover x y sprite py).getMsbD px = spriteBit sprite r c := by
  rw [Bool.eq_iff_iff, getMsbD_cover hp]
  constructor
  · rintro ⟨r', c', h', hb⟩
    obtain ⟨rfl, rfl⟩ := h.unique h'
    exact hb
  · exact fun hb => ⟨r, c, h, hb⟩

lemma cover_of_not_falls (h : ∀ r c, ¬ Falls x y sprite r c px py) (hp : px < width) :
    (cover x y sprite py).getMsbD px = false := by
  rw [Bool.eq_false_iff, ne_eq, getMsbD_cover hp]
  rintro ⟨r, c, hf, -⟩
  exact h r c hf

lemma pixel_congr {g : Framebuffer} (h : f.rows = g.rows) : f.pixel px py = g.pixel px py := by
  rw [pixel, pixel, row, row, h]

lemma draw_hit_iff_put_out :
    (f.draw x y sprite).1 = true ↔
      ∃ px < width, ∃ py < height,
        f.pixel px py = true ∧ (f.draw x y sprite).2.pixel px py = false := by
  rw [draw_hit_iff]
  refine exists_congr fun px => and_congr_right fun _ =>
    exists_congr fun py => and_congr_right fun hy => and_congr_right fun hl => ?_
  rw [pixel_draw f x y sprite hy, hl, Bool.true_xor, Bool.not_eq_false']

end Framebuffer

namespace Processor

open Framebuffer (width height spriteWidth)

variable {τ : Type} {s t : Processor τ} {i : Instruction} {table : List UInt8} {d : ℕ}

/-- Between `s` and `t` the glyph of `d` is drawn by exclusive or, with its top left pixel at column
`x` and row `y`, as far as it lies on the screen; VF tells whether it put out a lit pixel. -/
structure Prints (table : List UInt8) (d x y : ℕ) (s t : Processor τ) : Prop where
  inside : ∀ r < Glyphs.height, ∀ c < spriteWidth, x + c < width → y + r < height →
    t.screen.pixel (x + c) (y + r) = (s.screen.pixel (x + c) (y + r) ^^
      ((table[d * Glyphs.height + r]?).getD 0).toNat.testBit (7 - c))
  outside : ∀ px < width, ∀ py < height,
    ¬ (px ∈ Set.Ico x (x + spriteWidth) ∧ py ∈ Set.Ico y (y + Glyphs.height)) →
      t.screen.pixel px py = s.screen.pixel px py
  flag : t.v Registers.flag =
    if ∃ px < width, ∃ py < height, s.screen.pixel px py = true ∧ t.screen.pixel px py = false
    then 1 else 0

lemma prints_of_draw {x y : ℕ} {screen : Framebuffer} (hl : table.length = Glyphs.tableSize)
    (hd : d < 16) (hs : s.screen.rows = screen.rows)
    (ht : t.screen = (screen.draw x y (Glyphs.rows table d)).2)
    (hv : t.v Registers.flag = if (screen.draw x y (Glyphs.rows table d)).1 then 1 else 0) :
    Prints table d x y s t := by
  have hn := Glyphs.length_rows hl hd
  refine ⟨fun r hr c hc hx hy => ?_, fun px hx py hy ho => ?_, ?_⟩
  · have hf : Framebuffer.Falls x y (Glyphs.rows table d) r c (x + c) (y + r) :=
      ⟨by rwa [hn], hc, by omega, by omega⟩
    rw [ht, Framebuffer.pixel_congr hs, Framebuffer.pixel_draw _ _ _ _ hy,
      Framebuffer.cover_of_falls hf hx, Framebuffer.spriteBit, Glyphs.getElem?_rows hr]
  · have hf (r c : ℕ) : ¬ Framebuffer.Falls x y (Glyphs.rows table d) r c px py := by
      rintro ⟨hr, hc, hpx, hpy⟩
      rw [hn] at hr
      exact ho ⟨⟨by omega, by omega⟩, ⟨by omega, by omega⟩⟩
    rw [ht, Framebuffer.pixel_congr hs, Framebuffer.pixel_draw _ _ _ _ hy,
      Framebuffer.cover_of_not_falls hf hx, Bool.xor_false]
  · rw [hv, ht]
    simp only [Framebuffer.draw_hit_iff_put_out, Framebuffer.pixel_congr hs]

/-- `t` goes on where `s` stands. The keys and the counters may differ, and the screen may have been
shown in between. -/
structure Resumes (s t : Processor τ) : Prop where
  registers : t.registers = s.registers
  memory : t.memory = s.memory
  wait : t.wait = s.wait
  rows : t.screen.rows = s.screen.rows

def glyphIndex (s : Processor τ) (d : ℕ) : Processor τ :=
  s.setIndex (Memory.glyphStart + d * Glyphs.height : ℕ)

lemma cycle_of_ldFVx (hw : s.wait = none) (hi : s.next? = .ok i) (ho : i.opcode = .ldFVx) :
    s.cycle = .done (some i) { (s.sampled.advance 1).glyphIndex ((s.v i.x).toNat % 16) with
      executed := s.executed + 1 } := by
  rw [cycle_of_next? hw hi, execute, ho]
  rfl

lemma v_setFlag (s : Processor τ) (on : Bool) :
    (s.setFlag on).v Registers.flag = if on then 1 else 0 := by
  have hv : (s.setFlag on).v Registers.flag = (s.setV Registers.flag (if on then 1 else 0)).v _ :=
    rfl
  rw [hv, v_setV, if_pos rfl]

lemma exists_drawn (hw : s.wait = none) (hi : s.next? = .ok i) (ho : i.opcode = .drw)
    (hn : i.n = 5) (hd : d < 16)
    (hx : s.registers.index = (Memory.glyphStart + d * Glyphs.height : ℕ)) :
    ∃ t, s.cycle = .done (some i) t ∧
      t.screen = (s.screen.draw (s.v i.x).toNat (s.v i.y).toNat
        (Glyphs.rows s.memory.glyphs d)).2 ∧
      t.v Registers.flag = if (s.screen.draw (s.v i.x).toNat (s.v i.y).toNat
        (Glyphs.rows s.memory.glyphs d)).1 then 1 else 0 := by
  have hb : Memory.Within s.registers.index Glyphs.height := by
    rw [hx, Memory.Within]
    simp only [Memory.glyphStart, Glyphs.height, Memory.size]
    omega
  have hf : s.fault? i = none := by
    rw [fault?, ho, hn]
    exact if_pos hb
  obtain ⟨u, he, hc⟩ := exists_cycle_execute hw hi hf
  rw [execute, ho, hn] at he
  obtain ⟨sprite, hr, rfl⟩ := draw_done he
  change s.memory.readBlock s.registers.index Glyphs.height = .ok sprite at hr
  obtain ⟨-, rfl⟩ := Memory.readBlock_eq_ok_iff.mp hr
  rw [hx, Int.toNat_natCast, Int.toNat_natCast, Glyphs.slice_eq_rows _ hd] at hc
  exact ⟨_, hc, rfl, v_setFlag _ _⟩

lemma exists_prints (hg : s.memory.glyphs = table) (hw : s.wait = none) (hi : s.next? = .ok i)
    (ho : i.opcode = .ldFVx) :
    ∃ t, s.cycle = .done (some i) t ∧
      ∀ u j, t.Resumes u → u.next? = .ok j → j.opcode = .drw → j.n = 5 →
        ∃ w, u.cycle = .done (some j) w ∧
          Prints table ((s.v i.x).toNat % 16) (s.v j.x).toNat (s.v j.y).toNat s w := by
  have hl : table.length = Glyphs.tableSize := by rw [← hg, Memory.glyphs, Memory.length_slice]
  have hd : (s.v i.x).toNat % 16 < 16 := Nat.mod_lt _ (by decide)
  refine ⟨_, cycle_of_ldFVx hw hi ho, fun u j hu hj hoj hnj => ?_⟩
  have hx : u.registers.index = (Memory.glyphStart + (s.v i.x).toNat % 16 * Glyphs.height : ℕ) := by
    rw [hu.registers]
    rfl
  -- the registers that place the sprite are still those of `s`
  have hv (x : Digit) : u.v x = s.v x := by
    rw [v, hu.registers]
    rfl
  have hm : u.memory.glyphs = table := by
    rw [hu.memory]
    exact hg
  obtain ⟨w, hc, hs, hf⟩ := exists_drawn (hu.wait.trans hw) hj hoj hnj hd hx
  rw [hv, hv, hm] at hs hf
  exact ⟨w, hc, prints_of_draw hl hd hu.rows.symm hs hf⟩

def Spares (s : Processor τ) (r : Option Instruction) : Prop :=
  ∀ i ∈ r, ∀ a ∈ i.stores s.registers.index, a ∉ Memory.glyphPlace

lemma glyphs_cycle (h : s.Spares s.cycle.completed) :
    s.cycle.state.memory.glyphs = s.memory.glyphs := by
  refine Memory.glyphs_congr fun k hk => ?_
  cases hc : s.cycle with
  | failed f t =>
    obtain ⟨-, ⟨-, rfl⟩ | ⟨i, -, -, rfl⟩⟩ := cycle_failed_iff.mp hc
    · rfl
    · rfl
  | done r t =>
    rw [Outcome.state]
    obtain ⟨w, -, -, rfl⟩ | ⟨-, i, u, -, rfl, he, rfl⟩ := cycle_done_cases hc
    · rw [poll]
      cases w.answer? s.keys <;> rfl
    · rw [hc] at h
      exact execute_cell (s := s.sampled) he fun ha => h i rfl _ ha hk

end Processor

end ChipEight
