import ChipEight.Proofs.Instruction.Patterns
import ChipEight.Text.Integer

/-!
Assembly: the word of an instruction is read back from its text. No two templates go together, so
the letters of a text tell its template, and thereby the digits that the pattern names; the text
shows the other digits.
-/

namespace ChipEight

namespace Instruction

def Place.position? : Place → Option ℕ
  | letter _ => none
  | digit k => some k
  | rows => some 0

def part (i : Instruction) (ks : List ℕ) : ℕ := (ks.map fun k => (i.digit k).val * 16 ^ k).sum

lemma part_cons (i : Instruction) (k : ℕ) (ks : List ℕ) :
    i.part (k :: ks) = (i.digit k).val * 16 ^ k + i.part ks := by
  rw [part, List.map_cons, List.sum_cons, part]

namespace Template

def positions (t : Template) : List ℕ := t.filterMap Place.position?

/-- Reads a text by a template: the part of the word that the digits there make up. -/
def read? : Template → List Char → Option ℕ
  | [], [] => some 0
  | .letter c :: t, d :: cs => if c = d then read? t cs else none
  | .digit k :: t, c :: cs => do return (← Text.hexValue? c).val * 16 ^ k + (← read? t cs)
  | [.rows], cs => Text.natural? cs
  | _, _ => none

def Closed : Template → Bool
  | [] | [.rows] => true
  | .rows :: _ => false
  | _ :: t => Closed t

lemma natural?_digit : ∀ d : Digit, Text.natural? (toString d.val).toList = some d.val := by
  decide +kernel

variable (i : Instruction) {t u : Template}

lemma read?_text (h : Closed t = true) : read? t (text i t) = some (i.part (positions t)) := by
  fun_induction Closed t with
  | case1 => rfl
  | case2 =>
    have hn : text i [.rows] = (toString i.n.val).toList := List.flatMap_singleton _ _
    have hp : i.part (positions [.rows]) = i.n := by simp [part, positions, Place.position?, n]
    rw [hn, hp]
    exact natural?_digit i.n
  | case3 => cases h
  | case4 p t hp hr ih =>
    cases p with
    | letter c =>
      change (if c = c then read? t (text i t) else none) = some (i.part (positions t))
      rw [if_pos rfl, ih h]
    | digit k =>
      change (do return (← Text.hexValue? (Text.hexDigit (i.digit k))).val * 16 ^ k +
        (← read? t (text i t))) = some (i.part (k :: positions t))
      rw [Text.hexValue?_hexDigit, ih h, part_cons]
      rfl
    | rows => exact (hr rfl).elim

lemma read?_of_clash (h : clash t u = true) : read? t (text i u) = none := by
  fun_induction clash t u with
  | case1 c t d u ih =>
    change (if c = d then read? t (text i u) else none) = none
    rw [Bool.or_eq_true, bne_iff_ne] at h
    split_ifs with hc
    · exact ih (h.resolve_left (not_not_intro hc))
    · rfl
  | case2 k t l u ih =>
    change (do return (← Text.hexValue? (Text.hexDigit (i.digit l))).val * 16 ^ k +
      (← read? t (text i u))) = none
    rw [Text.hexValue?_hexDigit, ih h]
    rfl
  | case3 => cases h

end Template

end Instruction

namespace Opcode

open Instruction (Template)

def named : List Char → ℕ
  | [] => 0
  | c :: cs => (Text.hexValue? c).elim 0 Fin.val * 16 ^ cs.length + named cs

def free : List Char → List ℕ
  | [] => []
  | c :: cs => if (Text.hexValue? c).isNone then cs.length :: free cs else free cs

def Suits (c : Char) (d : Digit) : Prop := Text.hexValue? c = none ∨ Text.hexValue? c = some d

lemma suits_of_admits {c : Char} {d : Digit} (h : Admits c d) : Suits c d := by
  refine h.imp_left fun hc => ?_
  simp only [wildcards, List.mem_cons, List.not_mem_nil, or_false] at hc
  rcases hc with rfl | rfl | rfl | rfl <;> rfl

lemma named_add_part (i : Instruction) {cs : List Char}
    (h : List.Forall₂ Suits cs ((List.range cs.length).reverse.map i.digit)) :
    named cs + i.part (free cs) = i.word.toNat % 16 ^ cs.length := by
  induction cs with
  | nil => simp [named, free, Instruction.part, Nat.mod_one]
  | cons c cs ih =>
    rw [List.length_cons, List.range_succ, List.reverse_append, List.reverse_singleton,
      List.singleton_append, List.map_cons, List.forall₂_cons] at h
    have hd : i.word.toNat % 16 ^ (cs.length + 1) =
        i.digit cs.length * 16 ^ cs.length + i.word.toNat % 16 ^ cs.length := by
      rw [i.digit_eq, pow_succ, Nat.mod_mul, Nat.mul_comm, Nat.add_comm]
    rw [List.length_cons, hd, ← ih h.2, named, free]
    obtain hc | hc := h.1
    · rw [hc, Option.elim_none, if_pos Option.isNone_none, Instruction.part_cons]
      omega
    · rw [hc, Option.elim_some, if_neg (by simp)]
      omega

lemma positions_template :
    ∀ op ∈ all, op.template.positions = free op.pattern.toList := by
  decide +kernel

lemma length_pattern : ∀ op ∈ all, op.pattern.toList.length = 4 := by
  decide +kernel

lemma suits_pattern (i : Instruction) :
    List.Forall₂ Suits i.opcode.pattern.toList [i.digit 3, i.x, i.y, i.n] := by
  by_cases hu : i.opcode = unknown
  · rw [hu]
    simp [pattern, Suits, Text.hexValue?]
  · exact (fits_classify hu).imp fun _ _ => suits_of_admits

lemma word_eq_named_add (i : Instruction) :
    i.word.toNat = named i.opcode.pattern.toList + i.part i.opcode.template.positions := by
  have hl := length_pattern _ (mem_all i.opcode)
  have hn : named i.opcode.pattern.toList + i.part (free i.opcode.pattern.toList) =
      i.word.toNat % 16 ^ i.opcode.pattern.toList.length := by
    apply named_add_part
    rw [hl]
    exact suits_pattern i
  rw [positions_template _ (mem_all i.opcode), hn, hl]
  exact (Nat.mod_eq_of_lt i.word.toNat_lt).symm

lemma clash_template : ∀ op ∈ all, ∀ op' ∈ all, op ≠ op' →
    Template.clash op.template op'.template = true := by
  decide +kernel

lemma closed_template : ∀ op ∈ all, Template.Closed op.template = true := by
  decide +kernel

def assemble? (op : Opcode) (text : String) : Option ℕ :=
  (op.template.read? text.toList).map (named op.pattern.toList + ·)

lemma assemble?_text (i : Instruction) : i.opcode.assemble? i.text = some i.word.toNat := by
  rw [assemble?, Instruction.text, toList_text,
    Template.read?_text i (closed_template _ (mem_all _)), word_eq_named_add i]
  rfl

lemma assemble?_of_ne {op : Opcode} {i : Instruction} (h : op ≠ i.opcode) :
    op.assemble? i.text = none := by
  rw [assemble?, Instruction.text, toList_text,
    Template.read?_of_clash i (clash_template _ (mem_all op) _ (mem_all _) h)]
  rfl

end Opcode

namespace Instruction

def assemble? (text : String) : Option ℕ := Opcode.all.findSome? (·.assemble? text)

lemma assemble?_text (i : Instruction) : assemble? i.text = some i.word.toNat := by
  cases h : assemble? i.text with
  | none =>
    have hn := List.findSome?_eq_none_iff.mp h _ (Opcode.mem_all i.opcode)
    rw [Opcode.assemble?_text] at hn
    cases hn
  | some w =>
    obtain ⟨op, -, hw⟩ := List.exists_of_findSome?_eq_some h
    obtain rfl | ho := eq_or_ne op i.opcode
    · rw [← hw, Opcode.assemble?_text]
    · rw [Opcode.assemble?_of_ne ho] at hw
      cases hw

lemma eq_of_text_eq {i j : Instruction} (h : i.text = j.text) : i = j := by
  have hw := assemble?_text i
  rw [h, assemble?_text, Option.some_inj, UInt16.toNat_inj] at hw
  cases i
  cases j
  exact congrArg mk hw.symm

lemma ofInt_eq_iff {w₁ w₂ : ℤ} : ofInt w₁ = ofInt w₂ ↔ w₁ % 0x10000 = w₂ % 0x10000 := by
  rw [← toNat_ofInt w₁, ← toNat_ofInt w₂, Int.natCast_inj, UInt16.toNat_inj]
  exact ⟨congrArg word, fun h => congrArg mk h⟩

theorem text_lossless (w₁ w₂ : ℤ) :
    ((ofInt w₁).text = (ofInt w₂).text ↔ w₁ % 0x10000 = w₂ % 0x10000) ∧
    assemble? (ofInt w₁).text = some (w₁ % 0x10000).toNat ∧
    ((ofInt w₁).opcode ≠ (ofInt w₂).opcode → (ofInt w₁).text ≠ (ofInt w₂).text) := by
  refine ⟨?_, ?_, fun ho h => ?_⟩
  · rw [← ofInt_eq_iff]
    exact ⟨eq_of_text_eq, congrArg text⟩
  · rw [assemble?_text, ← toNat_ofInt, Int.toNat_natCast]
  · rw [eq_of_text_eq h] at ho
    exact ho rfl

example : assemble? "DRW V1, V2, 15" = some 0xD12F := by decide +kernel

end Instruction

end ChipEight
