import ChipEight.Machine.Basic
import ChipEight.Proofs.Memory

namespace ChipEight.Memory

variable {m : Memory} {addr : ℤ} {n k : ℕ} {word : UInt16} {f : Fault}

lemma readWord_of_within (hw : Within addr 2) : ∃ word, m.readWord addr = .ok word := by
  rw [readWord, if_pos hw]
  exact ⟨_, rfl⟩

lemma within_two : Within addr 2 ↔ 0 ≤ addr ∧ addr + 2 ≤ 0x1000 := by
  simp [Within, size]

lemma listing_succ (hr : m.readWord addr = .ok word) (n : ℕ) :
    m.listing addr (n + 1) =
      (m.listing (addr + 2) n).map (Instruction.line addr ⟨word⟩ :: ·) := by
  rw [listing, hr]
  dsimp only
  cases m.listing (addr + 2) n <;> rfl

lemma listing_succ_eq_error_iff (hr : m.readWord addr = .ok word) :
    m.listing addr (n + 1) = .error f ↔ m.listing (addr + 2) n = .error f := by
  rw [listing_succ hr]
  cases m.listing (addr + 2) n <;> simp [Except.map]

lemma listing_ok (hlow : 0 ≤ addr) (hhigh : addr + 2 * n ≤ 0x1000) :
    ∃ ls, m.listing addr n = .ok ls := by
  induction n generalizing addr with
  | zero => exact ⟨[], rfl⟩
  | succ n ih =>
    obtain ⟨word, hr⟩ : ∃ word, m.readWord addr = .ok word :=
      readWord_of_within (within_two.mpr (by omega))
    obtain ⟨ls, hl⟩ : ∃ ls, m.listing (addr + 2) n = .ok ls := ih (by omega) (by omega)
    rw [listing_succ hr, hl]
    exact ⟨_, rfl⟩

lemma listing_error (hlow : 0 ≤ addr) (hend : addr + 2 * k = 0x1000) (hk : k < n) :
    m.listing addr n = .error (.memory 0x1000 2) := by
  -- by the number of words up to the end of memory, which is where the listing fails
  induction k generalizing addr n with
  | zero =>
    obtain ⟨n, rfl⟩ := Nat.exists_eq_succ_of_ne_zero hk.ne'
    obtain rfl : addr = 0x1000 := by omega
    have hr : m.readWord 0x1000 = .error (.memory 0x1000 2) :=
      readWord_eq_error_iff.mpr ⟨by decide, rfl⟩
    rw [listing, hr]
  | succ k ih =>
    obtain ⟨n, rfl⟩ := Nat.exists_eq_succ_of_ne_zero (Nat.ne_zero_of_lt hk)
    obtain ⟨word, hr⟩ : ∃ word, m.readWord addr = .ok word :=
      readWord_of_within (within_two.mpr (by omega))
    exact (listing_succ_eq_error_iff hr).mpr (ih (by omega) (by omega) (by omega))

lemma listing_one_eq_error_iff : m.listing addr 1 = .error f ↔ m.readWord addr = .error f := by
  rw [listing]
  cases m.readWord addr <;> simp [listing]

lemma within_of_listing {ls : List String} (h : m.listing addr n = .ok ls) (hn : 0 < n) :
    0 ≤ addr ∧ addr + 2 * n ≤ 0x1000 := by
  induction n generalizing addr ls with
  | zero => exact absurd hn (lt_irrefl 0)
  | succ n ih =>
    cases hr : m.readWord addr with
    | error f =>
      rw [listing, hr] at h
      cases h
    | ok word =>
      have hw := within_two.mp (within_of_readWord hr)
      rcases Nat.eq_zero_or_pos n with rfl | hp
      · omega
      · cases hl : m.listing (addr + 2) n with
        | error f =>
          rw [(listing_succ_eq_error_iff hr).mpr hl] at h
          cases h
        | ok ls =>
          have hi := ih hl hp
          omega

lemma fault_of_listing (h : m.listing addr n = .error f) :
    ∃ k < n, ¬ Within (addr + 2 * k) 2 ∧ f = .memory (addr + 2 * k) 2 := by
  induction n generalizing addr with
  | zero => cases h
  | succ n ih =>
    cases hr : m.readWord addr with
    | error g =>
      rw [listing, hr] at h
      cases h
      refine ⟨0, n.succ_pos, ?_⟩
      rw [Nat.cast_zero, mul_zero, add_zero]
      exact readWord_eq_error_iff.mp hr
    | ok word =>
      obtain ⟨k, hk, hf⟩ := ih ((listing_succ_eq_error_iff hr).mp h)
      refine ⟨k + 1, by omega, ?_⟩
      have ha : addr + 2 * (k + 1 : ℕ) = addr + 2 + 2 * k := by
        push_cast
        ring
      rwa [ha]

lemma listing_fails_iff (m : Memory) (addr count : ℤ) :
    (∃ f, m.listing addr count.toNat = .error f) ↔
      0 < count ∧ ¬ (0 ≤ addr ∧ addr + 2 * count ≤ 0x1000) := by
  constructor
  · rintro ⟨f, hf⟩
    have hc : 0 < count := by
      by_contra hn
      rw [Int.toNat_of_nonpos (not_lt.mp hn)] at hf
      cases hf
    refine ⟨hc, fun ⟨hlow, hhigh⟩ => ?_⟩
    obtain ⟨ls, hl⟩ : ∃ ls, m.listing addr count.toNat = .ok ls := listing_ok hlow (by omega)
    rw [hl] at hf
    cases hf
  · rintro ⟨hc, hn⟩
    cases hl : m.listing addr count.toNat with
    | error f => exact ⟨f, rfl⟩
    | ok ls =>
      have hw := within_of_listing hl (by omega)
      omega

end ChipEight.Memory
