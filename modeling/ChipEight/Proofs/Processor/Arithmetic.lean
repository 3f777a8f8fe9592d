import ChipEight.Proofs.Processor.Ownership

namespace ChipEight

namespace Instruction

def plain : List Opcode := [.ldVxVy, .or, .and, .xor, .addVxKk]

def flagging : List Opcode := [.addVxVy, .sub, .subn, .shr, .shl]

def value (i : Instruction) (a b : ℕ) : ℕ :=
  match i.opcode with
  | .ldVxVy => b
  | .or => a ||| b
  | .and => a &&& b
  | .xor => a ^^^ b
  | .addVxKk => (a + i.kk.toNat) % 256
  | _ => a

/-- The value and the flag of an operation if Vx holds `a` and Vy holds `b`; a shift works on
`c`. -/
def Yields (i : Instruction) (a b c value flag : ℕ) : Prop :=
  match i.opcode with
  | .addVxVy => value + 256 * flag = a + b
  | .sub => (value : ℤ) = (a - b : ℤ) % 256 ∧ flag = if b < a then 1 else 0
  | .subn => (value : ℤ) = (b - a : ℤ) % 256 ∧ flag = if a < b then 1 else 0
  | .shr => 2 * value + flag = c
  | .shl => value + 256 * flag = 2 * c
  | _ => False

end Instruction

namespace Processor

section Bytes

variable (a b : UInt8)

lemma add_carry :
    (a + b).toNat + 256 * (decide (0xFF < a.toNat + b.toNat)).toNat = a.toNat + b.toNat := by
  have ha := a.toNat_lt
  have hb := b.toNat_lt
  rw [UInt8.toNat_add]
  by_cases h : 0xFF < a.toNat + b.toNat
  · simp only [h, decide_true, Bool.toNat_true]
    omega
  · simp only [h, decide_false, Bool.toNat_false]
    omega

lemma sub_borrow :
    ((a - b).toNat : ℤ) = (a.toNat - b.toNat : ℤ) % 256 ∧
      (decide (b < a)).toNat = if b.toNat < a.toNat then 1 else 0 := by
  have ha := a.toNat_lt
  have hb := b.toNat_lt
  constructor
  · rw [UInt8.toNat_sub]
    omega
  · simp only [UInt8.lt_iff_toNat_lt, Bool.toNat, Bool.cond_decide]

lemma shr_bit : 2 * (b >>> 1).toNat + (b &&& 0x01 != 0).toNat = b.toNat := by
  have h : ∀ n < 256,
      2 * (UInt8.ofNat n >>> 1).toNat + (UInt8.ofNat n &&& 0x01 != 0).toNat = n := by
    decide +kernel
  simpa using h b.toNat b.toNat_lt

lemma shl_bit : (b <<< 1).toNat + 256 * (b &&& 0x80 != 0).toNat = 2 * b.toNat := by
  have h : ∀ n < 256,
      (UInt8.ofNat n <<< 1).toNat + 256 * (UInt8.ofNat n &&& 0x80 != 0).toNat = 2 * n := by
    decide +kernel
  simpa using h b.toNat b.toNat_lt

end Bytes

variable {τ : Type} {s : Processor τ} {i : Instruction} {x : Digit}

lemma execute_plain (s : Processor τ) (keys : KeySample) (ho : i.opcode ∈ Instruction.plain) :
    ∃ b, s.execute keys i = .done () (s.setV i.x b) ∧
      b.toNat = i.value (s.v i.x).toNat (s.v i.y).toNat := by
  rw [execute, Instruction.value]
  cases h : i.opcode with
  | ldVxVy => exact ⟨_, rfl, rfl⟩
  | or => exact ⟨_, rfl, UInt8.toNat_or _ _⟩
  | and => exact ⟨_, rfl, UInt8.toNat_and _ _⟩
  | xor => exact ⟨_, rfl, UInt8.toNat_xor _ _⟩
  | addVxKk => exact ⟨_, rfl, UInt8.toNat_add _ _⟩
  | _ => simp [Instruction.plain, h] at ho

lemma execute_flagging (s : Processor τ) (keys : KeySample)
    (ho : i.opcode ∈ Instruction.flagging) :
    ∃ (b : UInt8) (on : Bool), s.execute keys i = .done () (s.setResult i.x b on) ∧
      i.Yields (s.v i.x).toNat (s.v i.y).toNat (s.shiftSource i.x i.y).toNat b.toNat on.toNat := by
  rw [execute]
  simp only [Instruction.Yields]
  cases h : i.opcode with
  | addVxVy => exact ⟨_, _, rfl, add_carry _ _⟩
  | sub => exact ⟨_, _, rfl, sub_borrow _ _⟩
  | subn => exact ⟨_, _, rfl, sub_borrow _ _⟩
  | shr => exact ⟨_, _, rfl, shr_bit _⟩
  | shl => exact ⟨_, _, rfl, shl_bit _⟩
  | _ => simp [Instruction.flagging, h] at ho

lemma v_setResult_self (s : Processor τ) (b : UInt8) (on : Bool) (h : x ≠ Registers.flag) :
    (s.setResult x b on).v x = b := by
  rw [setResult, v_setFlag_of_ne _ h, v_setV, if_pos rfl]

lemma v_setResult_flag (s : Processor τ) (x : Digit) (b : UInt8) (on : Bool) :
    (s.setResult x b on).v Registers.flag = if on then 1 else 0 := by
  change ((s.setV x b).setV Registers.flag (if on then 1 else 0)).v Registers.flag = _
  rw [v_setV, if_pos rfl]

/-- `t` is `s` with an instruction completed that changes nothing but registers from V0 to VF. -/
def Computed (s t : Processor τ) : Prop :=
  t = { s.sampled.advance 1 with
    registers := { (s.registers.advance 1) with v := t.registers.v }
    executed := s.executed + 1 }

theorem arithmetic_exact (hw : s.wait = none) (hi : s.next? = .ok i) :
    let a := (s.v i.x).toNat
    let b := (s.v i.y).toNat
    let c := if s.options.shiftUsesVy then b else a
    (i.opcode ∈ Instruction.plain →
      ∃ t, s.cycle = .done (some i) t ∧ s.Computed t ∧
        (t.v i.x).toNat = i.value a b ∧ ∀ k ≠ i.x, t.v k = s.v k) ∧
    (i.opcode ∈ Instruction.flagging →
      ∃ t value, ∃ flag : Bool, s.cycle = .done (some i) t ∧ s.Computed t ∧
        i.Yields a b c (UInt8.toNat value) flag.toNat ∧
        (i.x ≠ Registers.flag → t.v i.x = value) ∧
        t.v Registers.flag = (if flag then 1 else 0) ∧
        ∀ k, k ≠ i.x → k ≠ Registers.flag → t.v k = s.v k) := by
  intro a b c
  have hc : (s.shiftSource i.x i.y).toNat = c := by
    rw [shiftSource, apply_ite s.v, apply_ite UInt8.toNat]
  rw [cycle_of_next? hw hi]
  constructor
  · intro ho
    obtain ⟨r, he, hr⟩ := execute_plain (s.sampled.advance 1) s.keys ho
    rw [he]
    refine ⟨_, rfl, rfl, ?_, fun k hk => v_setV_of_ne (s := s.sampled.advance 1) r hk⟩
    change (((s.sampled.advance 1).setV i.x r).v i.x).toNat = i.value a b
    rw [v_setV, if_pos rfl]
    exact hr
  · intro ho
    obtain ⟨r, on, he, hr⟩ := execute_flagging (s.sampled.advance 1) s.keys ho
    change i.Yields a b (s.shiftSource i.x i.y).toNat r.toNat on.toNat at hr
    rw [hc] at hr
    rw [he]
    refine ⟨_, r, on, rfl, rfl, hr, fun hx => ?_, ?_, fun k hk hf => ?_⟩
    · exact v_setResult_self (s.sampled.advance 1) r on hx
    · exact v_setResult_flag (s.sampled.advance 1) i.x r on
    · exact v_setResult (s := s.sampled.advance 1) r on (by simp [hk, hf])

def doubling : Processor ℚ := booted [0x6F, 0xC8, 0x8F, 0xF4]

theorem doubling_flag :
    ∃ s t : Processor ℚ, doubling.run [.cycle] = s ∧ s.wait = none ∧
      s.next? = .ok ⟨0x8FF4⟩ ∧ s.v 0xF = 200 ∧ s.cycle = .done (some ⟨0x8FF4⟩) t ∧
      t.v 0xF = 1 ∧ t.v 3 = s.v 3 := by
  let s : Processor ℚ := { (doubling.sampled.advance 1).setV 0xF 0xC8 with executed := 1 }
  have hm : s.memory = doubling.memory := rfl
  have hi₀ : doubling.next? = .ok ⟨0x6FC8⟩ := next?_booted 0x6F 0xC8 _
  have hi : s.next? = .ok ⟨0x8FF4⟩ := next?_loaded (k := 2) hm rfl (by decide)
  have hc₀ : doubling.cycle = .done (some ⟨0x6FC8⟩) s := cycle_of_next? rfl hi₀
  have hv : s.v 0xF = 200 := by decide
  obtain ⟨-, h⟩ := arithmetic_exact (s := s) rfl hi
  obtain ⟨t, r, on, hc, -, hy, -, hf, hk⟩ := h (by decide)
  have hs : r.toNat + 256 * on.toNat = 400 := hy
  have hr := r.toNat_lt
  cases on with
  | false => simp at hs; omega
  | true => exact ⟨s, t, run_of_done hc₀, rfl, hi, hv, hc, hf, hk 3 (by decide) (by decide)⟩

end Processor

end ChipEight
