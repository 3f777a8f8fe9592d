import ChipEight.Proofs.Memory

/-!
Memory as a map from addresses to bytes. Whatever is done to a memory, in whatever order and with
whatever numbers, it answers as the map answers and holds what the map holds; what is written takes
the place of as many cells as it has bytes.
-/

namespace ChipEight

inductive MemoryUse where
  | readByte (addr : ℤ)
  | readWord (addr : ℤ)
  | readBlock (addr size : ℤ)
  | writeByte (addr value : ℤ)
  | writeValues (addr : ℤ) (values : List ℤ)
  | loadProgram (program : List UInt8)
  | loadGlyphs (table : List UInt8)

inductive MemoryAnswer where
  | done
  | number (n : ℕ)
  | bytes (ns : List ℕ)
  | fault (f : Fault)
  | badGlyphs (size : ℕ)
  deriving DecidableEq

namespace MemoryUse

variable {σ σ' : Type}

def history (use : σ → MemoryUse → MemoryAnswer × σ) : σ → List MemoryUse → List MemoryAnswer × σ
  | s, [] => ([], s)
  | s, u :: us =>
    let later := history use (use s u).2 us
    ((use s u).1 :: later.1, later.2)

lemma history_map {use : σ → MemoryUse → MemoryAnswer × σ}
    {use' : σ' → MemoryUse → MemoryAnswer × σ'} {view : σ → σ'}
    (hu : ∀ s u, (use s u).map id view = use' (view s) u) (s : σ) (us : List MemoryUse) :
    (history use s us).map id view = history use' (view s) us := by
  induction us generalizing s with
  | nil => rfl
  | cons u us ih =>
    rw [history, history, ← hu s u, Prod.map_snd, ← ih]
    rfl

end MemoryUse

abbrev Contents := ℤ → ℕ

namespace Contents

def zeros : Contents := fun _ => 0

def Outside (addr size : ℤ) : Prop := addr < 0 ∨ size < 0 ∨ 4096 < addr + size

instance (addr size : ℤ) : Decidable (Outside addr size) := inferInstanceAs (Decidable (_ ∨ _ ∨ _))

def write (M : Contents) (start : ℤ) (values : List ℕ) : Contents := fun a =>
  if start ≤ a then values.getD (a - start).toNat (M a) else M a

def use (M : Contents) : MemoryUse → MemoryAnswer × Contents
  | .readByte a => (if Outside a 1 then .fault (.memory a 1) else .number (M a), M)
  | .readWord a =>
    (if Outside a 2 then .fault (.memory a 2) else .number (256 * M a + M (a + 1)), M)
  | .readBlock a n =>
    (if Outside a n then .fault (.memory a n)
      else .bytes ((List.range n.toNat).map fun k : ℕ => M (a + k)), M)
  | .writeByte a v =>
    if Outside a 1 then (.fault (.memory a 1), M) else (.done, M.write a [(v % 256).toNat])
  | .writeValues a vs =>
    if Outside a vs.length then (.fault (.memory a vs.length), M)
    else (.done, M.write a (vs.map fun v => (v % 256).toNat))
  | .loadProgram p =>
    (.number (min p.length 3584), M.write 0x200 ((p.take 3584).map UInt8.toNat))
  | .loadGlyphs t =>
    if t.length = 80 then (.done, M.write 0x50 (t.map UInt8.toNat)) else (.badGlyphs t.length, M)

end Contents

namespace Memory

variable (m : Memory)

def contents : Contents := fun a => if 0 ≤ a then (m.cell a.toNat).toNat else 0

def use : MemoryUse → MemoryAnswer × Memory
  | .readByte a => (answer (fun b => .number b.toNat) (m.readByte a), m)
  | .readWord a => (answer (fun w => .number w.toNat) (m.readWord a), m)
  | .readBlock a n => (answer (fun bs => .bytes (bs.map UInt8.toNat)) (m.readBlock a n), m)
  | .writeByte a v => written (m.writeByte a v)
  | .writeValues a vs => written (m.writeValues a vs)
  | .loadProgram p => (.number (m.loadProgram p).1, (m.loadProgram p).2)
  | .loadGlyphs t =>
    match m.loadGlyphs t with
    | .ok m' => (.done, m')
    | .error e => (.badGlyphs e.size, m)
where
  answer {α : Type} (form : α → MemoryAnswer) : Except Fault α → MemoryAnswer
    | .ok a => form a
    | .error f => .fault f
  written : Except Fault Memory → MemoryAnswer × Memory
    | .ok m' => (.done, m')
    | .error f => (.fault f, m)

lemma outside_iff {addr size : ℤ} : Contents.Outside addr size ↔ ¬ Within addr size := by
  rw [Contents.Outside, Within, Memory.size]
  omega

lemma contents_zeros : contents zeros = Contents.zeros := by
  funext a
  have hc : zeros.cell a.toNat = 0 := by
    rw [cell, zeros, Vector.getElem?_replicate]
    split <;> rfl
  rw [contents, hc]
  exact ite_self 0

lemma contents_natCast (k : ℕ) : m.contents k = (m.cell k).toNat := if_pos k.cast_nonneg

lemma contents_of_nonneg {a : ℤ} (ha : 0 ≤ a) : m.contents a = (m.cell a.toNat).toNat := if_pos ha

lemma contents_splice (a : ℕ) (bytes : List UInt8) (h : a + bytes.length ≤ Memory.size) :
    contents ⟨Bytes.splice m.cells a bytes⟩ = m.contents.write a (bytes.map UInt8.toNat) := by
  funext b
  rw [Contents.write]
  rcases lt_or_ge b 0 with hb | hb
  · rw [contents, contents, if_neg (not_le.mpr hb), if_neg (by omega), if_neg (not_le.mpr hb)]
  · obtain ⟨k, rfl⟩ := Int.eq_ofNat_of_zero_le hb
    have hk : ((k : ℤ) - a).toNat = k - a := by omega
    rw [contents_natCast, contents_natCast, hk, List.getD_eq_getElem?_getD, List.getElem?_map,
      Option.getD_map]
    rcases lt_or_ge k Memory.size with hs | hs
    · rw [cell_splice m a bytes hs]
      split_ifs <;> first | rfl | omega
    · have hl : bytes.length ≤ k - a := by omega
      rw [cell_of_size_le _ hs, List.getElem?_eq_none hl, cell_of_size_le m hs]
      exact (ite_self _).symm

lemma toNat_slice (a n : ℕ) :
    (m.slice a n).map UInt8.toNat = (List.range n).map fun k : ℕ => m.contents (a + k) := by
  rw [slice, List.map_map]
  refine List.map_congr_left fun k _ => ?_
  exact (m.contents_natCast (a + k)).symm

lemma toNat_word (hi lo : UInt8) :
    (hi.toUInt16 <<< 8 ||| lo.toUInt16).toNat = 256 * hi.toNat + lo.toNat := by
  have hh : hi.toNat < 256 := hi.toNat_lt
  have hl : lo.toNat < 2 ^ 8 := lo.toNat_lt
  have hs : (hi.toUInt16 <<< 8).toNat = 2 ^ 8 * hi.toNat := by
    rw [UInt16.toNat_shiftLeft, UInt8.toNat_toUInt16, Nat.shiftLeft_eq]
    change hi.toNat * 2 ^ 8 % 2 ^ 16 = _
    omega
  rw [UInt16.toNat_or, hs, UInt8.toNat_toUInt16, ← Nat.two_pow_add_eq_or_of_lt hl]

lemma toNat_ofInt (v : ℤ) : (UInt8.ofInt v).toNat = (v % 256).toNat := by
  change (v % 256).toNat % 256 = (v % 256).toNat
  omega

lemma toNat_values (vs : List ℤ) :
    (vs.map UInt8.ofInt).map UInt8.toNat = vs.map fun v => (v % 256).toNat := by
  rw [List.map_map]
  exact List.map_congr_left fun v _ => toNat_ofInt v

variable {m} in
lemma answer_guarded {α : Type} {addr size : ℤ} {x : α} {form : α → MemoryAnswer} {a : MemoryAnswer}
    (h : Within addr size → form x = a) :
    use.answer form (if Within addr size then .ok x else .error (.memory addr size)) =
      if Contents.Outside addr size then .fault (.memory addr size) else a := by
  by_cases hw : Within addr size
  · rw [if_pos hw, if_neg (fun ho => outside_iff.mp ho hw)]
    exact h hw
  · rw [if_neg hw, if_pos (outside_iff.mpr hw)]
    rfl

lemma written_guarded {addr : ℤ} {bytes : List UInt8} {ns : List ℕ}
    (hn : bytes.map UInt8.toNat = ns) :
    (use.written m (m.writeBlock addr bytes)).map id contents =
      if Contents.Outside addr bytes.length then
        (.fault (.memory addr bytes.length), m.contents)
      else (.done, m.contents.write addr ns) := by
  subst hn
  rw [writeBlock]
  by_cases hw : Within addr bytes.length
  · have ha : (addr.toNat : ℤ) = addr := Int.toNat_of_nonneg hw.1
    have hs : addr.toNat + bytes.length ≤ Memory.size := by
      have hl := hw.2.2
      omega
    have hc := m.contents_splice addr.toNat bytes hs
    rw [ha] at hc
    rw [if_pos hw, if_neg (fun ho => outside_iff.mp ho hw), ← hc]
    rfl
  · rw [if_neg hw, if_pos (outside_iff.mpr hw)]
    rfl

lemma length_fitting (p : List UInt8) : (fitting p).length = min p.length 3584 := by
  rw [fitting, List.length_take, min_comm]
  rfl

lemma program_fits (p : List UInt8) : programStart + (fitting p).length ≤ Memory.size := by
  rw [length_fitting, programStart, Memory.size]
  omega

lemma glyphs_fit {t : List UInt8} (ht : t.length = 80) : glyphStart + t.length ≤ Memory.size := by
  rw [ht, glyphStart, Memory.size]
  omega

lemma contents_use (u : MemoryUse) : (m.use u).map id contents = m.contents.use u := by
  cases u with
  | readByte addr =>
    refine congrArg (·, m.contents) (answer_guarded fun hw => ?_)
    rw [contents_of_nonneg m hw.1]
  | readWord addr =>
    refine congrArg (·, m.contents) (answer_guarded fun hw => ?_)
    have ha := hw.1
    have hn : (addr + 1).toNat = addr.toNat + 1 := by omega
    rw [toNat_word, contents_of_nonneg m ha, contents_of_nonneg m (by omega), hn]
  | readBlock addr size =>
    refine congrArg (·, m.contents) (answer_guarded fun hw => ?_)
    rw [toNat_slice, Int.toNat_of_nonneg hw.1]
  | writeByte addr value => exact m.written_guarded (toNat_values [value])
  | writeValues addr vs =>
    have hw : (m.use (.writeValues addr vs)).map id contents = _ :=
      m.written_guarded (toNat_values vs)
    rwa [List.length_map] at hw
  | loadProgram p =>
    exact Prod.ext (congrArg MemoryAnswer.number (length_fitting p))
      (m.contents_splice programStart (fitting p) (program_fits p))
  | loadGlyphs t =>
    by_cases ht : t.length = 80
    · have hl : m.loadGlyphs t = .ok ⟨Bytes.splice m.cells glyphStart t⟩ := if_pos ht
      have hc := m.contents_splice glyphStart t (glyphs_fit ht)
      rw [use, hl, Contents.use, if_pos ht]
      exact Prod.ext rfl hc
    · have hl : m.loadGlyphs t = .error ⟨t.length⟩ := if_neg ht
      rw [use, hl, Contents.use, if_neg ht]
      rfl

def Replaces (old new : List UInt8) : Prop :=
  ∃ a bytes, a + bytes.length ≤ old.length ∧
    new = old.take a ++ bytes ++ old.drop (a + bytes.length)

lemma Replaces.refl (bs : List UInt8) : Replaces bs bs := ⟨0, [], Nat.zero_le _, rfl⟩

lemma replaces_splice {a : ℕ} {bytes : List UInt8} (h : a + bytes.length ≤ Memory.size) :
    Replaces m.cells.toList (Bytes.splice m.cells a bytes).toList := by
  refine ⟨a, bytes, ?_, Bytes.toList_splice m.cells h⟩
  rw [Vector.length_toList]
  exact h

lemma replaces_written (addr : ℤ) (bytes : List UInt8) :
    Replaces m.cells.toList (use.written m (m.writeBlock addr bytes)).2.cells.toList := by
  rw [writeBlock]
  by_cases hw : Within addr bytes.length
  · have hs : addr.toNat + bytes.length ≤ Memory.size := by
      have ha := hw.1
      have hl := hw.2.2
      omega
    rw [if_pos hw]
    exact m.replaces_splice hs
  · rw [if_neg hw]
    exact .refl _

lemma replaces_use (u : MemoryUse) : Replaces m.cells.toList (m.use u).2.cells.toList := by
  cases u with
  | writeByte addr value => exact m.replaces_written addr _
  | writeValues addr vs => exact m.replaces_written addr _
  | loadProgram p => exact m.replaces_splice (program_fits p)
  | loadGlyphs t =>
    by_cases ht : t.length = 80
    · have hl : m.loadGlyphs t = .ok ⟨Bytes.splice m.cells glyphStart t⟩ := if_pos ht
      rw [use, hl]
      exact m.replaces_splice (glyphs_fit ht)
    · have hl : m.loadGlyphs t = .error ⟨t.length⟩ := if_neg ht
      rw [use, hl]
      exact .refl _
  | _ => exact .refl _

lemma map_toNat_cells :
    m.cells.toList.map UInt8.toNat = (List.range 4096).map fun a : ℕ => m.contents a := by
  have hm : m.cells.toList.length = 4096 := Vector.length_toList
  refine List.ext_getElem (by simp) fun k hk hr => ?_
  rw [List.length_map, hm] at hk
  rw [List.getElem_map, List.getElem_map, List.getElem_range, contents_natCast, cell,
    Vector.getElem?_eq_getElem hk]
  rfl

open MemoryUse in
/-- After any history a memory has answered as the map would, and its 4096 cells hold the map. -/
theorem history_refines (us : List MemoryUse) :
    (history use zeros us).1 = (history Contents.use Contents.zeros us).1 ∧
      (history use zeros us).2.cells.toList.map UInt8.toNat =
        (List.range 4096).map (fun a : ℕ => (history Contents.use Contents.zeros us).2 a) ∧
      (∀ a, (history Contents.use Contents.zeros us).2 a ≤ 255) ∧
      ∀ u, Replaces (history use zeros us).2.cells.toList
        ((history use zeros us).2.use u).2.cells.toList := by
  have hh := history_map contents_use zeros us
  rw [contents_zeros] at hh
  rw [← hh, Prod.map_fst, Prod.map_snd]
  refine ⟨rfl, map_toNat_cells _, fun a => ?_, replaces_use _⟩
  rw [contents]
  split
  · exact Nat.le_of_lt_succ (UInt8.toNat_lt _)
  · exact Nat.zero_le _

example : (MemoryUse.history Contents.use Contents.zeros
    [.writeValues 0xFFD [-1, 2], .writeByte 0xFFE 259, .readWord 0xFFD, .readWord 0xFFF,
      .readBlock 0xFFE (-1), .readBlock 0x1000 0]).1 =
    [.done, .done, .number 0xFF03, .fault (.memory 0xFFF 2), .fault (.memory 0xFFE (-1)),
      .bytes []] := by
  decide

end Memory

end ChipEight
