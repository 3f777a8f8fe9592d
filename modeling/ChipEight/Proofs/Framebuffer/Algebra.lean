import ChipEight.Proofs.Framebuffer

/-!
Drawing as arithmetic on sets of pixels. A sprite covers the pixels under its set bits; to draw it
is to take the symmetric difference, so draws commute and each undoes itself, and lit pixels are
counted by the size of an intersection.
-/

namespace ChipEight.Framebuffer

structure Drawing where
  x : ℤ
  y : ℤ
  sprite : List UInt8

def paint (f : Framebuffer) (d : Drawing) : Framebuffer := (f.draw d.x d.y d.sprite).2

def paintAll (f : Framebuffer) (ds : List Drawing) : Framebuffer := ds.foldl paint f

def lit (f : Framebuffer) : Finset (ℕ × ℕ) :=
  (Finset.range width ×ˢ Finset.range height).filter fun p => f.pixel p.1 p.2

def visible (x y : ℤ) (sprite : List UInt8) : Finset (ℕ × ℕ) :=
  (Finset.range sprite.length ×ˢ Finset.range spriteWidth).filter fun b =>
    spriteBit sprite b.1 b.2 = true ∧
      (0 ≤ x + b.2 ∧ x + b.2 < width) ∧ 0 ≤ y + b.1 ∧ y + b.1 < height

def visibleOnLit (f : Framebuffer) (x y : ℤ) (sprite : List UInt8) : Finset (ℕ × ℕ) :=
  (visible x y sprite).filter fun b => f.pixel (x + b.2).toNat (y + b.1).toNat = true

def place (x y : ℤ) (b : ℕ × ℕ) : ℕ × ℕ := ((x + b.2).toNat, (y + b.1).toNat)

def covered (x y : ℤ) (sprite : List UInt8) : Finset (ℕ × ℕ) :=
  (visible x y sprite).image (place x y)

variable {f g : Framebuffer} {x y : ℤ} {sprite : List UInt8} {px py : ℕ}

lemma mem_lit : (px, py) ∈ f.lit ↔ (px < width ∧ py < height) ∧ f.pixel px py = true := by
  simp [lit]

lemma mem_covered :
    (px, py) ∈ covered x y sprite ↔
      (px < width ∧ py < height) ∧ (cover x y sprite py).getMsbD px = true := by
  simp only [covered, visible, place, Finset.mem_image, Finset.mem_filter, Finset.mem_product,
    Finset.mem_range, Prod.exists, Prod.mk.injEq]
  constructor
  · rintro ⟨r, c, ⟨⟨hr, hc⟩, hb, hx, hy⟩, hpx, hpy⟩
    have hw : px < width := by omega
    exact ⟨⟨hw, by omega⟩,
      (getMsbD_cover hw).mpr ⟨r, c, ⟨hr, hc, by omega, by omega⟩, hb⟩⟩
  · rintro ⟨⟨hw, hh⟩, hp⟩
    obtain ⟨r, c, ⟨hr, hc, hx, hy⟩, hb⟩ := (getMsbD_cover hw).mp hp
    exact ⟨r, c, ⟨⟨hr, hc⟩, hb, by omega, by omega⟩, by omega, by omega⟩

lemma place_injOn : Set.InjOn (place x y) (visible x y sprite) := by
  rintro ⟨r, c⟩ hb ⟨r', c'⟩ hb' he
  simp only [visible, Finset.coe_filter, Set.mem_ofPred_eq] at hb hb'
  simp only [place, Prod.mk.injEq] at he ⊢
  omega

lemma card_covered : (covered x y sprite).card = (visible x y sprite).card :=
  Finset.card_image_of_injOn place_injOn

lemma place_mem_lit {b : ℕ × ℕ} (hb : b ∈ visible x y sprite) :
    place x y b ∈ f.lit ↔ f.pixel (x + b.2).toNat (y + b.1).toNat = true := by
  obtain ⟨-, -, hx, hy⟩ := Finset.mem_filter.mp hb
  rw [place, mem_lit]
  exact and_iff_right ⟨by omega, by omega⟩

lemma card_covered_inter_lit :
    (covered x y sprite ∩ f.lit).card = (f.visibleOnLit x y sprite).card := by
  rw [← Finset.filter_mem_eq_inter, covered, Finset.filter_image, visibleOnLit,
    ← Finset.filter_congr fun b hb => place_mem_lit hb]
  exact Finset.card_image_of_injOn (place_injOn.mono (Finset.filter_subset _ _))

lemma lit_draw : (f.draw x y sprite).2.lit = symmDiff f.lit (covered x y sprite) := by
  ext ⟨px, py⟩
  rw [Finset.mem_symmDiff, mem_lit, mem_lit, mem_covered]
  by_cases hp : px < width ∧ py < height
  · simp only [hp, and_self, true_and, pixel_draw f x y sprite hp.2, Bool.not_eq_true]
    cases f.pixel px py <;> cases (cover x y sprite py).getMsbD px <;> simp
  · simp [hp]

lemma draw_hit_iff_nonempty :
    (f.draw x y sprite).1 = true ↔ (covered x y sprite ∩ f.lit).Nonempty := by
  simp only [draw_hit_iff, Finset.Nonempty, Finset.mem_inter, Prod.exists, mem_covered, mem_lit]
  refine exists_congr fun px => ?_
  constructor
  · rintro ⟨hx, py, hy, hl, hc⟩
    exact ⟨py, ⟨⟨hx, hy⟩, hc⟩, ⟨hx, hy⟩, hl⟩
  · rintro ⟨py, ⟨⟨hx, hy⟩, hc⟩, -, hl⟩
    exact ⟨hx, py, hy, hl, hc⟩

lemma rows_ext (h : f.lit = g.lit) : f.rows = g.rows := by
  ext py hy : 1
  apply BitVec.eq_of_getMsbD_eq
  intro px hx
  have hp : (px, py) ∈ f.lit ↔ (px, py) ∈ g.lit := by rw [h]
  simp only [mem_lit, hx, hy, width, height, and_self, true_and, pixel, row,
    Vector.getElem?_eq_getElem hy, Option.getD_some] at hp
  exact Bool.eq_iff_iff.mpr hp

lemma dirty_draw :
    (f.draw x y sprite).2.dirty = (f.dirty || decide (OnScreen x y sprite.length)) := by
  rw [draw]
  split_ifs with h <;> simp [h]

lemma length_litColumns (r : BitVec 64) :
    (litColumns r).length = ∑ px ∈ Finset.range width, if r.getMsbD px = true then 1 else 0 := by
  rw [← Finset.card_filter]
  change _ = ((List.range 64).filter fun px => decide (r.getMsbD px = true)).length
  simp only [Bool.decide_eq_true]
  rfl

lemma toList_rows (f : Framebuffer) : f.rows.toList = (List.range height).map f.row := by
  apply List.ext_getElem
  · simp [height]
  · intro py hy hy'
    simp only [Vector.length_toList] at hy
    simp [row, hy]

lemma litCount_eq_card (f : Framebuffer) : f.litCount = f.lit.card := by
  rw [litCount, toList_rows, List.flatMap_map, List.length_flatMap, lit, Finset.card_filter,
    Finset.sum_product_right]
  simp only [length_litColumns]
  rfl

lemma card_symmDiff_add {α : Type} [DecidableEq α] (s t : Finset α) :
    (symmDiff s t).card + 2 * (t ∩ s).card = s.card + t.card := by
  have hd : Disjoint (s \ t) (t \ s) := disjoint_sdiff_sdiff
  have hs := Finset.card_sdiff_add_card_inter s t
  have ht := Finset.card_sdiff_add_card_inter t s
  have hi := Finset.inter_comm s t
  rw [symmDiff_def, Finset.sup_eq_union, Finset.card_union_of_disjoint hd]
  rw [hi] at hs
  omega

lemma inter_nonempty_or {α : Type} [DecidableEq α] {s t : Finset α} :
    (t ∩ s).Nonempty ∨ (t ∩ symmDiff s t).Nonempty ↔ t.Nonempty := by
  constructor
  · rintro (h | h) <;> exact h.mono Finset.inter_subset_left
  · rintro ⟨p, hp⟩
    by_cases hs : p ∈ s
    · exact .inl ⟨p, Finset.mem_inter.mpr ⟨hp, hs⟩⟩
    · exact .inr ⟨p, Finset.mem_inter.mpr ⟨hp, Finset.mem_symmDiff.mpr (.inr ⟨hp, hs⟩)⟩⟩

lemma litCount_draw (f : Framebuffer) (x y : ℤ) (sprite : List UInt8) :
    (f.draw x y sprite).2.litCount + 2 * (f.visibleOnLit x y sprite).card =
      f.litCount + (visible x y sprite).card := by
  rw [litCount_eq_card, litCount_eq_card, lit_draw, ← card_covered_inter_lit, ← card_covered,
    card_symmDiff_add]

lemma eq_of_lit (hl : f.lit = g.lit) (hd : f.dirty = g.dirty) : f = g := by
  cases f
  cases g
  rw [mk.injEq]
  exact ⟨rows_ext hl, hd⟩

instance : RightCommutative paint where
  right_comm f d e := by
    apply eq_of_lit
    · simp only [paint, lit_draw]
      exact symmDiff_right_comm _ _ _
    · simp only [paint, dirty_draw]
      exact Bool.or_right_comm _ _ _

lemma hit_once_or_twice :
    ((f.draw x y sprite).1 = true ∨ ((f.draw x y sprite).2.draw x y sprite).1 = true) ↔
      (visible x y sprite).Nonempty := by
  rw [draw_hit_iff_nonempty, draw_hit_iff_nonempty, lit_draw, inter_nonempty_or, covered,
    Finset.image_nonempty]

theorem draws_commute_and_cancel (f : Framebuffer) :
    (∀ ds es : List Drawing, ds.Perm es → f.paintAll ds = f.paintAll es) ∧
      ∀ (x y : ℤ) (sprite : List UInt8),
        let once := f.draw x y sprite
        let twice := once.2.draw x y sprite
        twice.2.rows = f.rows ∧
          ((once.1 = true ∨ twice.1 = true) ↔ (visible x y sprite).Nonempty) ∧
          (once.2.litCount : ℤ) = f.litCount + (visible x y sprite).card -
            2 * (f.visibleOnLit x y sprite).card ∧
          (once.1 = false ↔ once.2.litCount = f.litCount + (visible x y sprite).card) := by
  refine ⟨fun ds es h => h.foldl_eq f, fun x y sprite => ?_⟩
  have hc := litCount_draw f x y sprite
  refine ⟨?_, hit_once_or_twice, by omega, ?_⟩
  · apply rows_ext
    rw [lit_draw, lit_draw, symmDiff_symmDiff_cancel_right]
  · rw [Bool.eq_false_iff, ne_eq, draw_hit_iff_nonempty, Finset.not_nonempty_iff_eq_empty,
      ← Finset.card_eq_zero, card_covered_inter_lit]
    omega

theorem striped_draws :
    ([⟨-3, 30, [0x81, 0x42, 0xFF]⟩, ⟨60, -1, [0xFF, 0x0F]⟩] : List Drawing).Perm
        [⟨60, -1, [0xFF, 0x0F]⟩, ⟨-3, 30, [0x81, 0x42, 0xFF]⟩] ∧
      striped.paintAll [⟨-3, 30, [0x81, 0x42, 0xFF]⟩, ⟨60, -1, [0xFF, 0x0F]⟩] =
        striped.paintAll [⟨60, -1, [0xFF, 0x0F]⟩, ⟨-3, 30, [0x81, 0x42, 0xFF]⟩] ∧
      (visible (-3) 30 [0x81, 0x42, 0xFF]).card = 2 ∧
      (striped.draw (-3) 30 [0x81, 0x42, 0xFF]).2.litCount = striped.litCount ∧
      (striped.draw (-3) 30 [0x81, 0x42, 0xFF]).1 = true := by
  obtain ⟨hp, hd⟩ := draws_commute_and_cancel striped
  have hs : (visible (-3) 30 [0x81, 0x42, 0xFF]).card = 2 := by decide
  have ho : (striped.visibleOnLit (-3) 30 [0x81, 0x42, 0xFF]).card = 1 := by decide
  obtain ⟨-, -, hc, hn⟩ := hd (-3) 30 [0x81, 0x42, 0xFF]
  have hl := List.Perm.swap (⟨60, -1, [0xFF, 0x0F]⟩ : Drawing) ⟨-3, 30, [0x81, 0x42, 0xFF]⟩ []
  refine ⟨hl, hp _ _ hl, hs, by omega, ?_⟩
  rw [← Bool.not_eq_false]
  intro h
  have h := hn.mp h
  omega

end ChipEight.Framebuffer
