import ChipEight.Instruction
import Mathlib.Tactic

namespace ChipEight

namespace Text

lemma hexDigits_of_lt {width n : ℕ} (hw : 0 < width) (hn : n < 16 ^ width) :
    hexDigits width n = (List.range width).reverse.map fun k => hexDigit (n >>> (4 * k) % 16) := by
  have hp : n < 2 ^ (4 * width) := by rwa [pow_mul]
  have hl : n.log2 < 4 * width := by
    rcases Nat.eq_zero_or_pos n with rfl | h0
    · simpa using hw
    · exact (Nat.log2_lt h0.ne').mpr hp
  rw [hexDigits, max_eq_left (by omega)]

lemma toList_hex (width n : ℕ) : (hex width n).toList = hexDigits width n := by
  have hn : ¬ (n : ℤ) < 0 := by omega
  rw [hex, if_neg hn, Int.toNat_natCast, String.toList_ofList]

def hexValue? : Char → Option Digit
  | '0' => some (.last 0x0)
  | '1' => some (.last 0x1)
  | '2' => some (.last 0x2)
  | '3' => some (.last 0x3)
  | '4' => some (.last 0x4)
  | '5' => some (.last 0x5)
  | '6' => some (.last 0x6)
  | '7' => some (.last 0x7)
  | '8' => some (.last 0x8)
  | '9' => some (.last 0x9)
  | 'A' => some (.last 0xA)
  | 'B' => some (.last 0xB)
  | 'C' => some (.last 0xC)
  | 'D' => some (.last 0xD)
  | 'E' => some (.last 0xE)
  | 'F' => some (.last 0xF)
  | _ => none

lemma hexValue?_hexDigit : ∀ d : Digit, hexValue? (hexDigit d) = some d := by decide

lemma hexValue?_eq_some_iff {c : Char} {d : Digit} : hexValue? c = some d ↔ c = hexDigit d := by
  constructor
  · intro h
    unfold hexValue? at h
    split at h <;> cases h <;> rfl
  · rintro rfl
    exact hexValue?_hexDigit d

end Text

namespace Instruction

variable (i : Instruction)

lemma toNat_ofInt (word : ℤ) : ((ofInt word).word.toNat : ℤ) = word % 0x10000 := by
  change (((word % 2 ^ 16).toNat % 2 ^ 16 : ℕ) : ℤ) = word % 0x10000
  omega

lemma digit_eq (k : ℕ) : (i.digit k).val = i.word.toNat / 16 ^ k % 16 := by
  rw [digit, Digit.last, Nat.shiftRight_eq_div_pow, pow_mul]
  rfl

lemma word_eq : i.word.toNat = 4096 * i.digit 3 + 256 * i.x + 16 * i.y + i.n := by
  have h : i.word.toNat < 65536 := i.word.toNat_lt
  simp only [x, y, n, digit_eq]
  omega

lemma nnn_eq : i.nnn = 256 * i.x + 16 * i.y + i.n := by
  simp only [nnn, x, y, n, digit_eq]
  omega

lemma kk_eq : i.kk.toNat = 16 * i.y + i.n := by
  have hk : i.kk.toNat = i.word.toNat % 256 := UInt16.toNat_toUInt8 _
  rw [hk]
  simp only [y, n, digit_eq]
  omega

lemma digit_of_low {k width : ℕ} (hk : k < width) :
    (i.word.toNat % 16 ^ width) >>> (4 * k) % 16 = i.digit k := by
  obtain ⟨r, rfl⟩ := Nat.exists_eq_add_of_lt hk
  have hp : 16 ^ (k + r + 1) = 16 ^ k * (16 * 16 ^ r) := by ring
  have hs : 2 ^ (4 * k) = 16 ^ k := by rw [pow_mul]; rfl
  rw [Nat.shiftRight_eq_div_pow, hs, digit_eq, hp]
  exact (congrArg (· % 16) (Nat.mod_mul_right_div_self _ _ _)).trans (Nat.mod_mul_right_mod _ _ _)

lemma toList_hex_low (width : ℕ) (hw : 0 < width) :
    (Text.hex width (i.word.toNat % 16 ^ width : ℕ)).toList =
      (List.range width).reverse.map fun k => Text.hexDigit (i.digit k) := by
  rw [Text.toList_hex, Text.hexDigits_of_lt hw (Nat.mod_lt _ (by positivity))]
  refine List.map_congr_left fun k hk => ?_
  rw [List.mem_reverse, List.mem_range] at hk
  rw [i.digit_of_low hk]

lemma toList_hex_digit (d : Digit) : (Text.hex 1 (d : ℕ)).toList = [Text.hexDigit d] := by
  rw [Text.toList_hex, Text.hexDigits_of_lt (by decide) d.isLt]
  simp [Nat.mod_eq_of_lt d.isLt]

lemma toList_hex_kk :
    (Text.hex 2 i.operands.kk).toList = [Text.hexDigit i.y, Text.hexDigit i.n] :=
  i.toList_hex_low 2 (by decide)

lemma toList_hex_nnn :
    (Text.hex 3 i.operands.nnn).toList =
      [Text.hexDigit i.x, Text.hexDigit i.y, Text.hexDigit i.n] :=
  i.toList_hex_low 3 (by decide)

lemma toList_hex_word :
    (Text.hex 4 i.word.toNat).toList =
      [i.digit 3, i.x, i.y, i.n].map fun d : Digit => Text.hexDigit d := by
  have h := i.toList_hex_low 4 (by decide)
  have hw : i.word.toNat % 16 ^ 4 = i.word.toNat := Nat.mod_eq_of_lt i.word.toNat_lt
  rw [hw] at h
  exact h

inductive Place where
  | letter (c : Char)
  | digit (k : ℕ)
  | rows
  deriving DecidableEq

def Place.text (i : Instruction) : Place → List Char
  | letter c => [c]
  | digit k => [Text.hexDigit (i.digit k)]
  | rows => (toString i.n.val).toList

abbrev Template := List Place

def Template.text (i : Instruction) (t : Template) : List Char := t.flatMap (Place.text i)

namespace Template

def letters (s : String) : Template := s.toList.map .letter

def vx : Template := letters "V" ++ [.digit 2]

def vy : Template := letters "V" ++ [.digit 1]

def byte : Template := letters "0x" ++ [.digit 1, .digit 0]

def addr : Template := letters "0x" ++ [.digit 2, .digit 1, .digit 0]

lemma text_append (t u : Template) : Template.text i (t ++ u) = t.text i ++ u.text i :=
  List.flatMap_append

lemma text_letters (s : String) : (letters s).text i = s.toList := by
  rw [letters, text, List.flatMap_map]
  exact List.flatMap_singleton' _

lemma text_vx : vx.text i = ("V" ++ Text.hex 1 i.operands.x).toList := by
  rw [vx, text_append, text_letters, String.toList_append]
  exact congrArg _ (toList_hex_digit i.x).symm

lemma text_vy : vy.text i = ("V" ++ Text.hex 1 i.operands.y).toList := by
  rw [vy, text_append, text_letters, String.toList_append]
  exact congrArg _ (toList_hex_digit i.y).symm

lemma text_byte : byte.text i = ("0x" ++ Text.hex 2 i.operands.kk).toList := by
  rw [byte, text_append, text_letters, String.toList_append, toList_hex_kk]
  rfl

lemma text_addr : addr.text i = ("0x" ++ Text.hex 3 i.operands.nnn).toList := by
  rw [addr, text_append, text_letters, String.toList_append, toList_hex_nnn]
  rfl

lemma text_rows : Template.text i [.rows] = (toString i.operands.n).toList := by
  rw [text, List.flatMap_singleton]
  rfl

/-- Two templates have different letters at the same place, before which each place is that of one
character. -/
def clash : Template → Template → Bool
  | .letter c :: t, .letter d :: u => c != d || clash t u
  | .digit _ :: t, .digit _ :: u => clash t u
  | _, _ => false

variable {i} in
lemma not_prefix_of_clash {j : Instruction} {t u : Template} (h : clash t u = true) :
    ¬ text i t <+: text j u := by
  fun_induction clash t u with
  | case1 c t d u ih =>
    rw [Bool.or_eq_true, bne_iff_ne] at h
    change ¬ c :: text i t <+: d :: text j u
    rw [List.cons_prefix_cons]
    rintro ⟨hc, hp⟩
    exact h.elim (fun hn => hn hc) (fun hu => ih hu hp)
  | case2 k t l u ih =>
    change ¬ Text.hexDigit (i.digit k) :: text i t <+: Text.hexDigit (j.digit l) :: text j u
    rw [List.cons_prefix_cons]
    exact fun hp => ih h hp.2
  | case3 => cases h

end Template

end Instruction

namespace Opcode

open Instruction Instruction.Template

def template : Opcode → Template
  | nop => letters "NOP"
  | cls => letters "CLS"
  | ret => letters "RET"
  | jp => letters "JP " ++ addr
  | call => letters "CALL " ++ addr
  | seVxKk => letters "SE " ++ vx ++ letters ", " ++ byte
  | sneVxKk => letters "SNE " ++ vx ++ letters ", " ++ byte
  | seVxVy => letters "SE " ++ vx ++ letters ", " ++ vy
  | ldVxKk => letters "LD " ++ vx ++ letters ", " ++ byte
  | addVxKk => letters "ADD " ++ vx ++ letters ", " ++ byte
  | ldVxVy => letters "LD " ++ vx ++ letters ", " ++ vy
  | or => letters "OR " ++ vx ++ letters ", " ++ vy
  | and => letters "AND " ++ vx ++ letters ", " ++ vy
  | xor => letters "XOR " ++ vx ++ letters ", " ++ vy
  | addVxVy => letters "ADD " ++ vx ++ letters ", " ++ vy
  | sub => letters "SUB " ++ vx ++ letters ", " ++ vy
  | shr => letters "SHR " ++ vx ++ letters ", " ++ vy
  | subn => letters "SUBN " ++ vx ++ letters ", " ++ vy
  | shl => letters "SHL " ++ vx ++ letters ", " ++ vy
  | sneVxVy => letters "SNE " ++ vx ++ letters ", " ++ vy
  | ldI => letters "LD I, " ++ addr
  | jpV0 => letters "JP V0, " ++ addr
  | rnd => letters "RND " ++ vx ++ letters ", " ++ byte
  | drw => letters "DRW " ++ vx ++ letters ", " ++ vy ++ letters ", " ++ [.rows]
  | skp => letters "SKP " ++ vx
  | sknp => letters "SKNP " ++ vx
  | ldVxDt => letters "LD " ++ vx ++ letters ", DT"
  | ldVxK => letters "LD " ++ vx ++ letters ", K"
  | ldDtVx => letters "LD DT, " ++ vx
  | ldStVx => letters "LD ST, " ++ vx
  | addIVx => letters "ADD I, " ++ vx
  | ldFVx => letters "LD F, " ++ vx
  | ldBVx => letters "LD B, " ++ vx
  | ldMemVx => letters "LD [I], " ++ vx
  | ldVxMem => letters "LD " ++ vx ++ letters ", [I]"
  | unknown => letters "DW 0x" ++ [.digit 3, .digit 2, .digit 1, .digit 0]

lemma toList_text (op : Opcode) (i : Instruction) :
    (op.text i.operands).toList = op.template.text i := by
  cases op with
  | unknown =>
    rw [template, text_append, text_letters, text, String.toList_append]
    exact congrArg _ i.toList_hex_word
  | _ =>
    simp only [text, template, text_append, text_letters, text_vx, text_vy, text_byte, text_addr,
      text_rows, String.toList_append]

end Opcode

end ChipEight
