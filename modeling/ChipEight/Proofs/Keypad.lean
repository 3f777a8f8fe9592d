import ChipEight.Keypad
import Mathlib.Tactic

namespace ChipEight

namespace Digit

lemma ofInt?_eq_some_iff {j : ℤ} {k : Digit} : ofInt? j = some k ↔ j = k := by
  rw [ofInt?]
  split
  · simp
    omega
  · split
    · rw [Option.some.injEq, Fin.ext_iff]
      dsimp only
      omega
    · simp
      omega

end Digit

namespace Keypad

variable (p : Keypad) (j : ℤ) (k : Digit)

def mark (v : Vector Bool 16) (j : ℤ) (b : Bool) : Vector Bool 16 :=
  match Digit.ofInt? j with
  | some d => v.setIfInBounds d b
  | none => v

lemma get_mark (v : Vector Bool 16) (b : Bool) :
    (mark v j b).get k = if j = k then b else v.get k := by
  rw [mark]
  cases hd : Digit.ofInt? j with
  | none =>
    have hj : j ≠ k := by
      intro h
      rw [Digit.ofInt?_eq_some_iff.mpr h] at hd
      cases hd
    rw [if_neg hj]
  | some d =>
    rw [Digit.ofInt?_eq_some_iff] at hd
    subst hd
    change (v.setIfInBounds d.val b)[k.val] = if (d.val : ℤ) = k.val then b else v[k.val]
    simp only [Vector.getElem_setIfInBounds, Int.natCast_inj]

lemma press_eq : p.press j = ⟨mark p.held j true, mark p.latched j true⟩ := by
  rw [press, mark, mark]
  cases Digit.ofInt? j <;> rfl

lemma release_eq : p.release j = { p with held := mark p.held j false } := by
  rw [release, mark]
  cases Digit.ofInt? j <;> rfl

@[simp] lemma held_press : (p.press j).held.get k = true ↔ j = k ∨ p.held.get k = true := by
  rw [press_eq, get_mark]
  split <;> simp_all

@[simp] lemma latched_press :
    (p.press j).latched.get k = true ↔ j = k ∨ p.latched.get k = true := by
  rw [press_eq, get_mark]
  split <;> simp_all

@[simp] lemma held_release : (p.release j).held.get k = true ↔ j ≠ k ∧ p.held.get k = true := by
  rw [release_eq, get_mark]
  split <;> simp_all

@[simp] lemma latched_release : (p.release j).latched = p.latched := by
  rw [release_eq]

lemma get_none : (Vector.replicate 16 false).get k = false :=
  Vector.getElem_replicate k.isLt

@[simp] lemma held_releaseAll : p.releaseAll.held.get k = false := get_none k

@[simp] lemma latched_sample : p.sample.2.latched.get k = false := get_none k

lemma isPressed_digit : p.isPressed k = p.held.get k := by
  have hk : ((k : ℤ) % 16).toNat = k := by omega
  rw [isPressed, hk, Vector.getElem?_eq_getElem k.isLt]
  rfl

lemma get_sample : p.sample.1.get k = (p.held.get k || p.latched.get k) :=
  Vector.getElem_ofFn k.isLt

variable {p k}

lemma latched_foldl {es : List KeyEvent} :
    (es.foldl apply p).latched.get k = true ↔ p.latched.get k = true ∨ .press k ∈ es := by
  induction es generalizing p with
  | nil => simp
  | cons e es ih =>
    rw [List.foldl_cons, ih, List.mem_cons]
    cases e with
    | press j =>
      rw [apply, latched_press, KeyEvent.press.injEq]
      tauto
    | release j =>
      rw [apply, latched_release]
      simp

lemma held_foldl {es : List KeyEvent} (h : (es.foldl apply p).held.get k = true) :
    p.held.get k = true ∨ .press k ∈ es := by
  induction es generalizing p with
  | nil => exact .inl h
  | cons e es ih =>
    rw [List.mem_cons]
    rcases ih h with he | he
    · cases e with
      | press j =>
        rw [apply, held_press] at he
        rw [KeyEvent.press.injEq]
        tauto
      | release j =>
        rw [apply, held_release] at he
        exact .inl he.2
    · exact .inr (.inr he)

def newKeys (a b : KeySample) : Set Digit := { k | b.get k = true ∧ a.get k = false }

/-- A key that is held was pressed since the last sample, or is in it. -/
def Covers (a : KeySample) (p : Keypad) : Prop :=
  ∀ k, p.held.get k = true → p.latched.get k = true ∨ a.get k = true

variable {a : KeySample}

lemma covers_sample : Covers p.sample.1 p.sample.2 := by
  intro k hk
  rw [get_sample, Bool.or_eq_true]
  exact .inr (.inl hk)

lemma Covers.apply (h : Covers a p) (e : KeyEvent) : Covers a (p.apply e) := by
  intro k hk
  cases e with
  | press j =>
    rw [Keypad.apply, held_press] at hk
    rw [Keypad.apply, latched_press]
    have hp := h k
    tauto
  | release j =>
    rw [Keypad.apply, held_release] at hk
    rw [Keypad.apply, latched_release]
    exact h k hk.2

lemma covers_releaseAll (p : Keypad) : Covers a p.releaseAll := by
  intro k hk
  rw [held_releaseAll] at hk
  cases hk

/-- The keys pressed since the sample `a` that are not in it; `es` is what happens last. -/
def freshPresses (a : KeySample) (p : Keypad) (es : List KeyEvent) : Set Digit :=
  { k | a.get k = false ∧ (p.latched.get k = true ∨ .press k ∈ es) }

lemma Covers.newKeys_eq (h : Covers a p) (es : List KeyEvent) :
    newKeys a (es.foldl Keypad.apply p).sample.1 = freshPresses a p es := by
  ext k
  rw [newKeys, freshPresses, Set.mem_ofPred_eq, Set.mem_ofPred_eq, get_sample, Bool.or_eq_true,
    latched_foldl, and_comm]
  refine and_congr_right fun ha => ⟨?_, .inr⟩
  rintro (hk | hk)
  · rcases held_foldl hk with hk | hk
    · have hp := h k hk
      rw [ha] at hp
      tauto
    · exact .inr hk
  · exact hk

end Keypad

end ChipEight
