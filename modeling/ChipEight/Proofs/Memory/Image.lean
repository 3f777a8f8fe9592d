import ChipEight.Proofs.Memory.Contents

/-!
What lies in memory behind the loading of a glyph table and a program. Each of them takes the place
of one block and of nothing else, so that their order is all the same.
-/

namespace ChipEight

lemma Bytes.splice_comm {n a b : ℕ} (v : Bytes n) {xs ys : List UInt8} (h : a + xs.length ≤ b) :
    splice (splice v a xs) b ys = splice (splice v b ys) a xs := by
  apply Vector.toList_inj.mp
  refine List.ext_getElem? fun k => ?_
  simp only [Vector.getElem?_toList, getElem?_splice]
  rcases lt_or_ge k b with hb | hb
  · simp [not_le.mpr hb]
  · have hx : xs[k - a]? = none := List.getElem?_eq_none (by omega)
    simp [hx]

namespace Memory

def image (table program : List UInt8) : List UInt8 :=
  List.replicate 0x50 0 ++ table ++ List.replicate 0x160 0 ++ program.take 3584 ++
    List.replicate (3584 - min program.length 3584) 0

def imageIn (bytes table program : List UInt8) : List UInt8 :=
  bytes.take 0x50 ++ table ++ (bytes.drop 0xA0).take 0x160 ++ program.take 3584 ++
    bytes.drop (0x200 + min program.length 3584)

variable {m m' : Memory} {table program : List UInt8}

lemma toList_loadProgram (m : Memory) (program : List UInt8) :
    (m.loadProgram program).2.cells.toList =
      m.cells.toList.take 0x200 ++ program.take 3584 ++
        m.cells.toList.drop (0x200 + min program.length 3584) := by
  rw [← length_fitting]
  exact Bytes.toList_splice m.cells (program_fits program)

lemma toList_loadGlyphs (h : m.loadGlyphs table = .ok m') :
    m'.cells.toList = m.cells.toList.take 0x50 ++ table ++ m.cells.toList.drop 0xA0 := by
  rw [loadGlyphs] at h
  split at h
  · rename_i hl
    cases h
    have hd : 0xA0 = glyphStart + table.length := by rw [hl]; rfl
    rw [hd]
    exact Bytes.toList_splice m.cells (glyphs_fit hl)
  · cases h

lemma imageIn_zeros : imageIn (List.replicate 4096 0) table program = image table program := by
  have hbehind (k : ℕ) : 4096 - (0x200 + k) = 3584 - k := by omega
  rw [imageIn, image, List.take_replicate, List.drop_replicate, List.take_replicate,
    List.drop_replicate, hbehind]
  rfl

lemma toList_imageIn (ht : table.length = 80) (hg : m.loadGlyphs table = .ok m') :
    (m'.loadProgram program).2.cells.toList = imageIn m.cells.toList table program := by
  have hlow : (m.cells.toList.take 0x50 ++ table).length = 0xA0 := by simp [ht]
  have hbelow : m'.cells.toList.take 0x200 =
      m.cells.toList.take 0x50 ++ table ++ (m.cells.toList.drop 0xA0).take 0x160 := by
    rw [toList_loadGlyphs hg, List.take_append, hlow, List.take_of_length_le (by omega)]
  have hbehind (k : ℕ) : m'.cells.toList.drop (0x200 + k) = m.cells.toList.drop (0x200 + k) := by
    have hk : 0xA0 + (0x200 + k - 0xA0) = 0x200 + k := by omega
    rw [toList_loadGlyphs hg, List.drop_append, hlow, List.drop_eq_nil_of_le (by omega),
      List.nil_append, List.drop_drop, hk]
  rw [toList_loadProgram, imageIn, hbelow, hbehind]

lemma toList_image (ht : table.length = 80) (hg : zeros.loadGlyphs table = .ok m) :
    (m.loadProgram program).2.cells.toList = image table program := by
  have hz : zeros.cells.toList = List.replicate 4096 0 := Vector.toList_replicate
  rw [toList_imageIn ht hg, hz, imageIn_zeros]

lemma loadGlyphs_loadProgram (program : List UInt8) (ht : table.length = 80) :
    ∃ m', m.loadGlyphs table = .ok m' ∧
      (m.loadProgram program).2.loadGlyphs table = .ok (m'.loadProgram program).2 := by
  have hb : glyphStart + table.length ≤ programStart := by rw [ht]; decide
  have hl (m : Memory) : m.loadGlyphs table = .ok ⟨Bytes.splice m.cells glyphStart table⟩ :=
    if_pos ht
  refine ⟨_, hl m, ?_⟩
  rw [hl]
  simp only [loadProgram, Bytes.splice_comm m.cells hb]

end Memory

end ChipEight
