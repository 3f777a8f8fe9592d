import ChipEight.Proofs.Instruction
import ChipEight.Proofs.Processor.Effects

/-!
Patterns of four digits. The tag of an instruction is the one whose pattern its written digits
follow; they follow no other, and an instruction that follows none is unknown.
-/

namespace ChipEight

lemma Digit.eq_of_natCast {d e : Digit} (h : (d.val : ℤ) = e.val) : d = e :=
  Fin.ext (Int.ofNat.inj h)

namespace Opcode

def wildcards : List Char := ['x', 'y', 'n', 'k']

/-- The low four digits of a word, as they are written, follow the pattern. -/
def Matches (op : Opcode) (word : ℤ) : Prop :=
  List.Forall₂ (fun c d => c ∈ wildcards ∨ c = d) op.pattern.toList
    (Text.hex 4 (word % 0x10000)).toList

def Admits (c : Char) (d : Digit) : Prop := c ∈ wildcards ∨ Text.hexValue? c = some d

def Fits (op : Opcode) (d3 d2 d1 d0 : Digit) : Prop :=
  List.Forall₂ Admits op.pattern.toList [d3, d2, d1, d0]

lemma admits_eq (c : Char) (d : Digit) : Admits c d = (c ∈ wildcards ∨ c = Text.hexDigit d) := by
  rw [Admits, Text.hexValue?_eq_some_iff]

lemma matches_iff {op : Opcode} {word : ℤ} {i : Instruction} (hi : .ofInt word = i) :
    op.Matches word ↔ op.Fits (i.digit 3) i.x i.y i.n := by
  rw [Matches, ← Instruction.toNat_ofInt, hi, Instruction.toList_hex_word,
    List.forall₂_map_right_iff]
  simp only [Fits, funext₂ admits_eq]

lemma admits_hexDigit (d : Digit) : Admits (Text.hexDigit d) d := .inr (Text.hexValue?_hexDigit d)

lemma admits_x (d : Digit) : Admits 'x' d := .inl (by decide)

lemma admits_y (d : Digit) : Admits 'y' d := .inl (by decide)

variable {op : Opcode} {d3 d2 d1 d0 : Digit}

lemma fits_iff {c3 c2 c1 c0 : Char} (hp : op.pattern.toList = [c3, c2, c1, c0]) :
    op.Fits d3 d2 d1 d0 ↔ Admits c3 d3 ∧ Admits c2 d2 ∧ Admits c1 d1 ∧ Admits c0 d0 := by
  rw [Fits, hp]
  simp

lemma classify_of_fits (h : op.Fits d3 d2 d1 d0) : classify d3.val d2.val d1.val d0.val = op := by
  cases op with
  | unknown => simp [Fits, pattern, Admits, wildcards, Text.hexValue?] at h
  | nop | cls | ret =>
    simp [Fits, pattern, Admits, wildcards, Text.hexValue?] at h
    obtain ⟨rfl, rfl, rfl, rfl⟩ := h
    rfl
  | jp | call | seVxKk | sneVxKk | ldVxKk | addVxKk | ldI | jpV0 | rnd | drw =>
    simp [Fits, pattern, Admits, wildcards, Text.hexValue?] at h
    obtain rfl := h
    rfl
  | skp | sknp | ldVxDt | ldVxK | ldDtVx | ldStVx | addIVx | ldFVx | ldBVx | ldMemVx | ldVxMem =>
    simp [Fits, pattern, Admits, wildcards, Text.hexValue?] at h
    obtain ⟨rfl, rfl, rfl⟩ := h
    rfl
  | _ =>
    simp [Fits, pattern, Admits, wildcards, Text.hexValue?] at h
    obtain ⟨rfl, rfl⟩ := h
    rfl

lemma pattern_arithmetic : ∀ d0 : Digit, arithmetic d0.val ≠ unknown →
    (arithmetic d0.val).pattern.toList = ['8', 'x', 'y', Text.hexDigit d0] := by
  decide +kernel

lemma pattern_keys : ∀ d1 d0 : Digit, keys (d1.val <<< 4 ||| d0.val) ≠ unknown →
    (keys (d1.val <<< 4 ||| d0.val)).pattern.toList =
      ['E', 'x', Text.hexDigit d1, Text.hexDigit d0] := by
  decide +kernel

lemma pattern_services : ∀ d1 d0 : Digit, services (d1.val <<< 4 ||| d0.val) ≠ unknown →
    (services (d1.val <<< 4 ||| d0.val)).pattern.toList =
      ['F', 'x', Text.hexDigit d1, Text.hexDigit d0] := by
  decide +kernel

lemma joined?_digits (d1 d0 : Digit) : joined? d1.val d0.val = some (d1.val <<< 4 ||| d0.val) := by
  rw [joined?, if_pos ⟨by omega, by omega⟩]
  rfl

lemma fits_classify (h : classify d3.val d2.val d1.val d0.val ≠ unknown) :
    (classify d3.val d2.val d1.val d0.val).Fits d3 d2 d1 d0 := by
  revert h
  unfold classify
  rw [joined?_digits, Option.elim_some, Option.elim_some]
  split
  case h_9 h3 =>
    intro h
    obtain rfl : d3 = 0x8 := Digit.eq_of_natCast h3
    exact (fits_iff (pattern_arithmetic d0 h)).mpr
      ⟨.inr rfl, admits_x d2, admits_y d1, admits_hexDigit d0⟩
  case h_15 h3 =>
    intro h
    obtain rfl : d3 = 0xE := Digit.eq_of_natCast h3
    exact (fits_iff (pattern_keys d1 d0 h)).mpr
      ⟨.inr rfl, admits_x d2, admits_hexDigit d1, admits_hexDigit d0⟩
  case h_16 h3 =>
    intro h
    obtain rfl : d3 = 0xF := Digit.eq_of_natCast h3
    exact (fits_iff (pattern_services d1 d0 h)).mpr
      ⟨.inr rfl, admits_x d2, admits_hexDigit d1, admits_hexDigit d0⟩
  case h_17 => exact fun h => absurd rfl h
  case h_1 | h_6 | h_10 =>
    split_ifs <;>
      simp [Fits, pattern, Admits, wildcards, Text.hexValue?, Digit.last, Fin.ext_iff] <;>
      omega
  all_goals
    simp [Fits, pattern, Admits, wildcards, Text.hexValue?, Digit.last, Fin.ext_iff]
    omega

lemma opcode_of_matches {word : ℤ} (h : op.Matches word) : (Instruction.ofInt word).opcode = op :=
  classify_of_fits ((matches_iff rfl).mp h)

lemma ne_unknown_of_matches {word : ℤ} (h : op.Matches word) : op ≠ unknown := by
  rintro rfl
  have hf := (matches_iff rfl).mp h
  simp [Fits, pattern, Admits, wildcards, Text.hexValue?] at hf

lemma matches_opcode {word : ℤ} (h : (Instruction.ofInt word).opcode ≠ unknown) :
    (Instruction.ofInt word).opcode.Matches word :=
  (matches_iff rfl).mpr (fits_classify h)

lemma opcode_eq_unknown_iff {word : ℤ} :
    (Instruction.ofInt word).opcode = unknown ↔ ∀ op : Opcode, ¬ op.Matches word := by
  constructor
  · intro h op hm
    exact ne_unknown_of_matches hm ((opcode_of_matches hm).symm.trans h)
  · intro h
    by_contra hu
    exact h _ (matches_opcode hu)

lemma mem_all (op : Opcode) : op ∈ all := by
  cases op <;> decide

open Instruction.Template in
lemma clash_unknown : ∀ op ∈ all, op ≠ unknown → clash (letters "DW ") op.template = true := by
  decide +kernel

lemma text_unknown_iff {i : Instruction} : "DW ".toList <+: i.text.toList ↔ i.opcode = unknown := by
  rw [Instruction.text, toList_text, ← Instruction.Template.text_letters i]
  constructor
  · intro h
    by_contra hu
    exact Instruction.Template.not_prefix_of_clash (clash_unknown _ (mem_all _) hu) h
  · intro h
    rw [h]
    exact List.prefix_append _ _

end Opcode

namespace Processor

variable {τ : Type} {s : Processor τ} {i : Instruction}

lemma unknowns_cycle (hw : s.wait = none) (hi : s.next? = .ok i) :
    s.cycle.state.unknowns = s.unknowns + if i.opcode = .unknown then 1 else 0 := by
  cases hf : s.fault? i with
  | some f =>
    rw [cycle_failed_iff.mpr ⟨hw, .inr ⟨i, hi, hf, rfl⟩⟩]
    rfl
  | none =>
    obtain ⟨u, hc, hu⟩ := exists_cycle_effect hw hi hf
    rw [hc]
    exact hu.unknowns

end Processor

namespace Instruction

structure Decoded (word : ℤ) (i : Instruction) : Prop where
  tag : ∀ op, op ≠ .unknown → (i.opcode = op ↔ op.Matches word)
  unique : ∀ op op' : Opcode, op.Matches word → op'.Matches word → op = op'
  unknown : i.opcode = .unknown ↔ ∀ op : Opcode, ¬ op.Matches word
  masked : (i.word.toNat : ℤ) = word % 0x10000
  digits : word % 0x10000 = 4096 * i.digit 3 + 256 * i.x + 16 * i.y + i.n
  nnn : word % 0x10000 = 4096 * i.digit 3 + i.nnn
  kk : word % 0x10000 = 256 * (16 * i.digit 3 + i.x) + i.kk.toNat
  digit_le : ∀ k, (i.digit k).val ≤ 15
  data : "DW ".toList <+: i.text.toList ↔ ∀ op : Opcode, ¬ op.Matches word
  /-- Every tag has its effect or its fault, and what has a pattern is not met as unknown. -/
  dispatched : ∀ {τ : Type} (s : Processor τ), s.wait = none → s.next? = .ok i →
    ((∃ t, s.cycle = .done (some i) t) ∨
      ∃ f, s.fault? i = some f ∧ s.cycle = .failed f (s.sampled.failed i)) ∧
    (s.cycle.state.unknowns = s.unknowns ↔ ∃ op : Opcode, op.Matches word)

theorem ofInt_decoded (word : ℤ) : Decoded word (.ofInt word) := by
  have hw := toNat_ofInt word
  have he := (ofInt word).word_eq
  have hn := (ofInt word).nnn_eq
  have hk := (ofInt word).kk_eq
  have hu : (ofInt word).opcode = .unknown ↔ ∀ op : Opcode, ¬ op.Matches word :=
    Opcode.opcode_eq_unknown_iff
  refine ⟨fun op ho => ⟨?_, Opcode.opcode_of_matches⟩, fun op op' h h' => ?_, hu, hw, by omega,
    by omega, by omega, fun k => Nat.le_of_lt_succ (Fin.isLt _), Opcode.text_unknown_iff.trans hu,
    fun s hs hi => ⟨?_, ?_⟩⟩
  · rintro rfl
    exact Opcode.matches_opcode ho
  · exact (Opcode.opcode_of_matches h).symm.trans (Opcode.opcode_of_matches h')
  · cases hf : s.fault? (.ofInt word) with
    | none => exact .inl (Processor.exists_cycle_done hs hi hf)
    | some f =>
      exact .inr ⟨f, rfl, Processor.cycle_failed_iff.mpr ⟨hs, .inr ⟨_, hi, hf, rfl⟩⟩⟩
  · rw [Processor.unknowns_cycle hs hi, Nat.add_eq_left, ite_eq_right_iff, hu]
    simp

end Instruction

end ChipEight
