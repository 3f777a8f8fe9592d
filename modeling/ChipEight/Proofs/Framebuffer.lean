import ChipEight.Framebuffer
import Mathlib.Tactic

/-!
What a sprite does to the screen, pixel by pixel. A row of a sprite is drawn as a whole word, and
rows off the screen are skipped; here every bit has a pixel of its own.
-/

namespace ChipEight.Framebuffer

def spriteBit (sprite : List UInt8) (r c : ℕ) : Bool :=
  (sprite[r]?.getD 0).toNat.testBit (7 - c)

structure Falls (x y : ℤ) (sprite : List UInt8) (r c px py : ℕ) : Prop where
  row : r < sprite.length
  column : c < spriteWidth
  across : x + c = px
  down : y + r = py

def cover (x y : ℤ) (sprite : List UInt8) (py : ℕ) : BitVec 64 :=
  if y ≤ py then span x (sprite[(py - y).toNat]?.getD 0) else 0

variable {x y : ℤ} {sprite : List UInt8}

lemma getMsbD_leftmost (b : UInt8) (c : ℕ) :
    (b.toBitVec.setWidth 64 <<< 56).getMsbD c = (decide (c < 8) && b.toNat.testBit (7 - c)) := by
  have hc : c + 56 + 8 - 64 = c := by omega
  rw [BitVec.getMsbD_shiftLeft, BitVec.getMsbD_setWidth, hc, BitVec.getMsbD]
  simp [BitVec.getLsbD]

lemma getMsbD_span (b : UInt8) {px : ℕ} (hp : px < 64) :
    (span x b).getMsbD px =
      (decide (x ≤ px ∧ px < x + 8) && b.toNat.testBit (7 - (px - x).toNat)) := by
  rw [span]
  split_ifs with ho hx
  · have hd : ¬ (x ≤ px ∧ px < x + 8) := by omega
    simp [hd]
  · rw [BitVec.getMsbD_ushiftRight, getMsbD_leftmost]
    by_cases hl : px < x.toNat
    · have hd : ¬ x ≤ px := by omega
      simp [hl, hd]
    · have hi : (px - x).toNat = px - x.toNat := by omega
      have hd : (x ≤ px ∧ px < x + 8) ↔ px - x.toNat < 8 := by omega
      simp [hp, hl, hi, hd]
  · rw [BitVec.getMsbD_shiftLeft, getMsbD_leftmost]
    have hi : (px - x).toNat = px + (-x).toNat := by omega
    have hd : (x ≤ px ∧ px < x + 8) ↔ px + (-x).toNat < 8 := by omega
    simp [hi, hd]

lemma ne_zero_iff {r : BitVec 64} : r ≠ 0 ↔ ∃ px < 64, r.getMsbD px = true := by
  constructor
  · intro hr
    by_contra hn
    push Not at hn
    refine hr (BitVec.eq_of_getMsbD_eq fun px hp => ?_)
    simpa using hn px hp
  · rintro ⟨px, -, hb⟩ rfl
    simp at hb

lemma span_zero (x : ℤ) : span x 0 = 0 := by
  by_contra hn
  obtain ⟨px, hp, hb⟩ := ne_zero_iff.mp hn
  simp [getMsbD_span 0 hp] at hb

lemma cover_nil (py : ℕ) : cover x y [] py = 0 := by
  rw [cover]
  split
  · exact span_zero x
  · rfl

lemma cover_cons_self (b : UInt8) (bs : List UInt8) (n : ℕ) :
    cover x n (b :: bs) n = span x b := by
  rw [cover, if_pos le_rfl, sub_self]
  rfl

lemma cover_cons_of_ne (b : UInt8) (bs : List UInt8) {py : ℕ} (hy : y ≠ py) :
    cover x y (b :: bs) py = cover x (y + 1) bs py := by
  rw [cover, cover]
  by_cases hl : y ≤ py
  · have hi : (py - y).toNat = (py - (y + 1)).toNat + 1 := by omega
    rw [if_pos hl, if_pos (by omega), hi, List.getElem?_cons_succ]
  · rw [if_neg hl, if_neg (by omega)]

lemma cover_above {py : ℕ} (hy : py < y) : cover x y sprite py = 0 := by
  rw [cover, if_neg (by omega)]

lemma getMsbD_cover {px py : ℕ} (hp : px < 64) :
    (cover x y sprite py).getMsbD px = true ↔
      ∃ r c, Falls x y sprite r c px py ∧ spriteBit sprite r c = true := by
  rw [cover]
  constructor
  · intro h
    split_ifs at h with hy
    · rw [getMsbD_span _ hp, Bool.and_eq_true, decide_eq_true_eq] at h
      obtain ⟨⟨hl, hr⟩, hb⟩ := h
      refine ⟨(py - y).toNat, (px - x).toNat, ⟨?_, ?_, by omega, by omega⟩, hb⟩
      · by_contra hn
        simp [List.getElem?_eq_none (not_lt.mp hn)] at hb
      · simp only [spriteWidth]
        omega
    · simp at h
  · rintro ⟨r, c, ⟨-, hc, hx, hy⟩, hb⟩
    have hr : (py - y).toNat = r := by omega
    have hi : (px - x).toNat = c := by omega
    simp only [spriteWidth] at hc
    rw [if_pos (by omega), getMsbD_span _ hp, hr, hi, Bool.and_eq_true, decide_eq_true_eq]
    exact ⟨by omega, hb⟩

/-- Each row takes what the sprite covers of it by exclusive or; a hit is a lit part covered. -/
def Overlaid (rows : Vector (BitVec 64) 32) (x y : ℤ) (sprite : List UInt8)
    (drawn : Bool × Vector (BitVec 64) 32) : Prop :=
  (∀ py < 32, drawn.2[py]?.getD 0 = rows[py]?.getD 0 ^^^ cover x y sprite py) ∧
    (drawn.1 = true ↔ ∃ py < 32, rows[py]?.getD 0 &&& cover x y sprite py ≠ 0)

lemma Overlaid.skip {rows : Vector (BitVec 64) 32} {drawn : Bool × Vector (BitVec 64) 32}
    (b : UInt8) {bs : List UInt8} (hy : ¬ (0 ≤ y ∧ y < 32))
    (h : Overlaid rows x (y + 1) bs drawn) : Overlaid rows x y (b :: bs) drawn := by
  have hc (py : ℕ) (hp : py < 32) : cover x y (b :: bs) py = cover x (y + 1) bs py :=
    cover_cons_of_ne b bs (by omega)
  obtain ⟨hr, hh⟩ := h
  constructor
  · intro py hp
    rw [hc py hp]
    exact hr py hp
  · rw [hh]
    refine exists_congr fun py => and_congr_right fun hp => ?_
    rw [hc py hp]

lemma Overlaid.cons {rows : Vector (BitVec 64) 32} {hit : Bool} {drawn : Vector (BitVec 64) 32}
    (b : UInt8) {bs : List UInt8} {n : ℕ} (hn : n < 32)
    (h : Overlaid (rows.setIfInBounds n (rows[n]?.getD 0 ^^^ span x b)) x (n + 1) bs (hit, drawn)) :
    Overlaid rows x n (b :: bs) (rows[n]?.getD 0 &&& span x b != 0 || hit, drawn) := by
  -- row `n` is done: the rest of the sprite lies below it
  have hself : cover x n (b :: bs) n = span x b := cover_cons_self b bs n
  have habove : cover x (n + 1) bs n = 0 := cover_above (by omega)
  have hbelow (py : ℕ) (he : n ≠ py) : cover x n (b :: bs) py = cover x (n + 1) bs py :=
    cover_cons_of_ne b bs (by exact_mod_cast he)
  obtain ⟨hr, hh⟩ := h
  constructor
  · intro py hp
    rw [hr py hp, Vector.getElem?_setIfInBounds]
    by_cases he : n = py
    · subst he
      simp [hn, hself, habove]
    · rw [if_neg he, hbelow py he]
  · rw [Bool.or_eq_true, bne_iff_ne, hh]
    constructor
    · rintro (hb | ⟨py, hp, hb⟩)
      · exact ⟨n, hn, hself ▸ hb⟩
      · have he : n ≠ py := by
          rintro rfl
          simp [habove] at hb
        rw [Vector.getElem?_setIfInBounds, if_neg he] at hb
        exact ⟨py, hp, hbelow py he ▸ hb⟩
    · rintro ⟨py, hp, hb⟩
      by_cases he : n = py
      · subst he
        exact .inl (hself ▸ hb)
      · rw [hbelow py he] at hb
        refine .inr ⟨py, hp, ?_⟩
        rw [Vector.getElem?_setIfInBounds, if_neg he]
        exact hb

lemma overlaid_overlay (rows : Vector (BitVec 64) 32) (x y : ℤ) (sprite : List UInt8) :
    Overlaid rows x y sprite (overlay rows x y sprite) := by
  induction sprite generalizing rows y with
  | nil => simp [Overlaid, overlay, cover_nil]
  | cons b bs ih =>
    rw [overlay]
    by_cases hy : 0 ≤ y ∧ y < 32
    · obtain ⟨n, rfl⟩ := Int.eq_ofNat_of_zero_le hy.1
      have hn : n < 32 := by omega
      rw [if_pos hy]
      exact Overlaid.cons b hn (ih _ _)
    · rw [if_neg hy]
      exact (ih rows (y + 1)).skip b hy

lemma Falls.onScreen {r c px py : ℕ} (h : Falls x y sprite r c px py) (hx : px < width)
    (hy : py < height) : OnScreen x y sprite.length := by
  obtain ⟨hr, hc, ha, hd⟩ := h
  simp only [spriteWidth, width, height] at hc hx hy
  exact ⟨by omega, by omega, by omega, by omega, by omega⟩

lemma Falls.unique {r c r' c' px py : ℕ} (h : Falls x y sprite r c px py)
    (h' : Falls x y sprite r' c' px py) : r' = r ∧ c' = c := by
  obtain ⟨-, -, ha, hd⟩ := h
  obtain ⟨-, -, ha', hd'⟩ := h'
  omega

section Draw

variable (f : Framebuffer) (x y : ℤ) (sprite : List UInt8)

lemma overlaid_draw :
    Overlaid f.rows x y sprite ((f.draw x y sprite).1, (f.draw x y sprite).2.rows) := by
  rw [draw]
  split_ifs with ho
  · exact overlaid_overlay f.rows x y sprite
  · have hc (py : ℕ) (hp : py < 32) : cover x y sprite py = 0 := by
      by_contra hn
      obtain ⟨px, hx, hb⟩ := ne_zero_iff.mp hn
      obtain ⟨r, c, hf, -⟩ := (getMsbD_cover hx).mp hb
      exact ho (hf.onScreen hx hp)
    constructor
    · intro py hp
      simp [hc py hp]
    · simp only [Bool.false_eq_true, false_iff, not_exists, not_and, not_not]
      intro py hp
      simp [hc py hp]

lemma pixel_draw {px py : ℕ} (hy : py < height) :
    (f.draw x y sprite).2.pixel px py = (f.pixel px py ^^ (cover x y sprite py).getMsbD px) := by
  rw [pixel, row, (overlaid_draw f x y sprite).1 py hy, BitVec.getMsbD_xor]
  rfl

lemma draw_hit_iff :
    (f.draw x y sprite).1 = true ↔
      ∃ px < width, ∃ py < height,
        f.pixel px py = true ∧ (cover x y sprite py).getMsbD px = true := by
  rw [(overlaid_draw f x y sprite).2]
  constructor
  · rintro ⟨py, hp, hn⟩
    obtain ⟨px, hx, hb⟩ := ne_zero_iff.mp hn
    rw [BitVec.getMsbD_and, Bool.and_eq_true] at hb
    exact ⟨px, hx, py, hp, hb⟩
  · rintro ⟨px, hx, py, hp, hb⟩
    refine ⟨py, hp, ne_zero_iff.mpr ⟨px, hx, ?_⟩⟩
    rw [BitVec.getMsbD_and, Bool.and_eq_true]
    exact hb

/-- Bit `7 - c` of row `r` of the sprite is drawn by exclusive or on the pixel at column `x + c` and
row `y + r`, if there is one; all other pixels remain. -/
theorem draw_composites :
    (∀ px < width, ∀ py < height,
      (∀ r c, Falls x y sprite r c px py →
        (f.draw x y sprite).2.pixel px py = (f.pixel px py ^^ spriteBit sprite r c)) ∧
      ((∀ r c, ¬ Falls x y sprite r c px py) →
        (f.draw x y sprite).2.pixel px py = f.pixel px py)) ∧
    ((f.draw x y sprite).1 = true ↔
      ∃ px < width, ∃ py < height, ∃ r c,
        Falls x y sprite r c px py ∧ spriteBit sprite r c = true ∧ f.pixel px py = true) ∧
    ∀ px py, (f.draw x y sprite).2.pixel px py ≠ f.pixel px py →
      (f.draw x y sprite).2.dirty = true := by
  refine ⟨fun px hx py hy => ⟨fun r c hf => ?_, fun hn => ?_⟩, ?_, fun px py hne => ?_⟩
  · rw [pixel_draw f x y sprite hy]
    congr 1
    rw [Bool.eq_iff_iff, getMsbD_cover hx]
    constructor
    · rintro ⟨r', c', hf', hb⟩
      obtain ⟨rfl, rfl⟩ := hf.unique hf'
      exact hb
    · exact fun hb => ⟨r, c, hf, hb⟩
  · have hb : (cover x y sprite py).getMsbD px = false := by
      rw [Bool.eq_false_iff, ne_eq, getMsbD_cover hx]
      rintro ⟨r, c, hf, -⟩
      exact hn r c hf
    rw [pixel_draw f x y sprite hy, hb, Bool.xor_false]
  · rw [draw_hit_iff]
    refine exists_congr fun px => and_congr_right fun hx =>
      exists_congr fun py => and_congr_right fun _ => ?_
    rw [getMsbD_cover hx]
    constructor
    · rintro ⟨hl, r, c, hf, hb⟩
      exact ⟨r, c, hf, hb, hl⟩
    · rintro ⟨r, c, hf, hb, hl⟩
      exact ⟨hl, r, c, hf, hb⟩
  · by_contra hd
    apply hne
    rw [draw] at hd ⊢
    split_ifs at hd ⊢ with ho
    · exact absurd rfl hd
    · rfl

end Draw

def striped : Framebuffer := (blank.draw 0 30 [0xFF]).2.markShown

theorem striped_composites :
    Falls (-3) 30 [0x81, 0x42, 0xFF] 0 7 4 30 ∧
      (striped.draw (-3) 30 [0x81, 0x42, 0xFF]).2.pixel 4 30 = (striped.pixel 4 30 ^^ true) ∧
      (striped.draw (-3) 30 [0x81, 0x42, 0xFF]).2.pixel 61 30 = striped.pixel 61 30 ∧
      (striped.draw (-3) 30 [0x81, 0x42, 0xFF]).1 = true ∧
      (striped.draw (-3) 30 [0x81, 0x42, 0xFF]).2.dirty = true := by
  have hf : Falls (-3) 30 [0x81, 0x42, 0xFF] 0 7 4 30 :=
    ⟨by decide, by decide, by decide, by decide⟩
  have hl : striped.pixel 4 30 = true := by decide
  obtain ⟨hp, hh, hd⟩ := draw_composites striped (-3) 30 [0x81, 0x42, 0xFF]
  have hx : (striped.draw (-3) 30 [0x81, 0x42, 0xFF]).2.pixel 4 30 = (striped.pixel 4 30 ^^ true) :=
    (hp 4 (by decide) 30 (by decide)).1 0 7 hf
  refine ⟨hf, hx, (hp 61 (by decide) 30 (by decide)).2 ?_, hh.mpr ?_, hd 4 30 ?_⟩
  · rintro r c ⟨-, hc, ha, -⟩
    simp only [spriteWidth] at hc
    omega
  · exact ⟨4, by decide, 30, by decide, 0, 7, hf, by decide, hl⟩
  · rw [hx, hl]
    exact Bool.false_ne_true

end ChipEight.Framebuffer
