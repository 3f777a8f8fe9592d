import ChipEight.Proofs.Keypad

/-!
What samples show after any history of a keypad. A key is held if the last thing that happened to it
was a press; a latch keeps a press that was taken back too soon for the next sample, and for that
sample only.
-/

namespace ChipEight

inductive KeypadUse where
  | key (e : KeyEvent)
  | releaseAll
  | sample
  deriving DecidableEq, Repr

namespace KeypadUse

def Affects (k : Digit) : KeypadUse → Prop
  | key (.press j) | key (.release j) => j = k
  | releaseAll => True
  | sample => False

def Unlatches : KeypadUse → Prop
  | key _ => False
  | releaseAll | sample => True

/-- Some press of `k` in a history was followed by nothing that counts against it. -/
def Pressed (k : Digit) (against : KeypadUse → Prop) (us : List KeypadUse) : Prop :=
  ∃ earlier later, us = earlier ++ key (.press k) :: later ∧ ∀ u ∈ later, ¬ against u

variable {k : Digit} {against : KeypadUse → Prop} {us : List KeypadUse} {u : KeypadUse}

lemma not_pressed_nil : ¬ Pressed k against [] := by
  rintro ⟨earlier, later, h, -⟩
  simp at h

lemma pressed_concat :
    Pressed k against (us ++ [u]) ↔ u = key (.press k) ∨ ¬ against u ∧ Pressed k against us := by
  constructor
  · rintro ⟨earlier, later, h, hl⟩
    cases later using List.reverseRecOn with
    | nil =>
      have hu := (List.append_inj' h rfl).2
      exact .inl (List.singleton_inj.mp hu)
    | append_singleton later v =>
      rw [← List.cons_append, ← List.append_assoc] at h
      obtain ⟨hus, hu⟩ := List.append_inj' h rfl
      rw [List.singleton_inj] at hu
      subst hu
      exact .inr ⟨hl u (by simp), earlier, later, hus, fun v hv => hl v (by simp [hv])⟩
  · rintro (rfl | ⟨hu, earlier, later, rfl, hl⟩)
    · exact ⟨us, [], rfl, by simp⟩
    · refine ⟨earlier, later ++ [u], by simp, fun v hv => ?_⟩
      rw [List.mem_append, List.mem_singleton] at hv
      obtain hv | rfl := hv
      · exact hl v hv
      · exact hu

lemma Pressed.mem (h : Pressed k against us) : key (.press k) ∈ us := by
  obtain ⟨earlier, later, rfl, -⟩ := h
  simp

end KeypadUse

namespace Keypad

open KeypadUse

def use (p : Keypad) : KeypadUse → Keypad
  | .key e => p.apply e
  | .releaseAll => p.releaseAll
  | .sample => p.sample.2

def uses (p : Keypad) (us : List KeypadUse) : Keypad := us.foldl use p

def sample? (p : Keypad) : KeypadUse → Option KeySample
  | .sample => some p.sample.1
  | _ => none

def samples (p : Keypad) : List KeypadUse → List KeySample
  | [] => []
  | u :: us => (p.sample? u).toList ++ samples (p.use u) us

variable {p : Keypad} {k : Digit} {u : KeypadUse} {us vs : List KeypadUse}

lemma uses_concat : p.uses (us ++ [u]) = (p.uses us).use u := List.foldl_concat ..

lemma uses_append : p.uses (us ++ vs) = (p.uses us).uses vs := List.foldl_append ..

lemma samples_append : p.samples (us ++ vs) = p.samples us ++ (p.uses us).samples vs := by
  induction us generalizing p with
  | nil => rfl
  | cons u us ih =>
    rw [List.cons_append, samples, samples, ih, List.append_assoc]
    rfl

lemma samples_eq_nil (h : .sample ∉ us) : p.samples us = [] := by
  induction us generalizing p with
  | nil => rfl
  | cons u us ih =>
    rw [List.mem_cons, not_or] at h
    rw [samples, ih h.2, List.append_nil]
    cases u with
    | key e => rfl
    | releaseAll => rfl
    | sample => exact absurd rfl h.1

lemma sample_eq_true_iff :
    p.sample.1.get k = true ↔ p.held.get k = true ∨ p.latched.get k = true := by
  rw [get_sample, Bool.or_eq_true]

lemma held_use :
    (p.use u).held.get k = true ↔
      u = .key (.press k) ∨ ¬ u.Affects k ∧ p.held.get k = true := by
  cases u with
  | key e =>
    cases e with
    | press j =>
      simp only [use, apply, held_press, Affects, KeypadUse.key.injEq, KeyEvent.press.injEq]
      tauto
    | release j => simp [use, apply, Affects]
  | releaseAll => simp [use, Affects]
  | sample => simp [use, Affects, sample]

lemma latched_use :
    (p.use u).latched.get k = true ↔
      u = .key (.press k) ∨ ¬ u.Unlatches ∧ p.latched.get k = true := by
  cases u with
  | key e =>
    cases e with
    | press j => simp [use, apply, Unlatches]
    | release j => simp [use, apply, Unlatches]
  | releaseAll =>
    have hl : p.releaseAll.latched.get k = false := get_none k
    simp [use, Unlatches, hl]
  | sample => simp [use, Unlatches]

lemma held_uses : ((released.uses us).held.get k = true) ↔ Pressed k (Affects k) us := by
  -- The last use decides, so the history is taken apart from its end.
  induction us using List.reverseRecOn with
  | nil =>
    have hk : released.held.get k = false := get_none k
    simp [uses, hk, not_pressed_nil]
  | append_singleton us u ih => rw [uses_concat, held_use, pressed_concat, ih]

lemma latched_uses : ((released.uses us).latched.get k = true) ↔ Pressed k Unlatches us := by
  induction us using List.reverseRecOn with
  | nil =>
    have hk : released.latched.get k = false := get_none k
    simp [uses, hk, not_pressed_nil]
  | append_singleton us u ih => rw [uses_concat, latched_use, pressed_concat, ih]

def Idle (p : Keypad) (k : Digit) : Prop := p.held.get k = false ∧ p.latched.get k = false

lemma idle_iff : p.Idle k ↔ p.sample.1.get k = false := by
  rw [Idle, get_sample, Bool.or_eq_false_iff]

lemma Idle.use (h : p.Idle k) (hu : u ≠ .key (.press k)) : (p.use u).Idle k := by
  rw [Idle, Bool.eq_false_iff, Bool.eq_false_iff, ne_eq, ne_eq, held_use, latched_use]
  simp [hu, h.1, h.2]

lemma Idle.sample? (h : p.Idle k) :
    (p.sample? u).toList.map (·.get k) = List.replicate ([u].count .sample) false := by
  cases u with
  | key e => rfl
  | releaseAll => rfl
  | sample => simp [Keypad.sample?, idle_iff.mp h]

lemma Idle.samples (h : p.Idle k) (hu : .key (.press k) ∉ us) :
    (p.samples us).map (·.get k) = List.replicate (us.count .sample) false := by
  induction us generalizing p with
  | nil => rfl
  | cons u us ih =>
    rw [List.mem_cons, not_or] at hu
    rw [Keypad.samples, List.map_append, h.sample?, ih (h.use (Ne.symm hu.1)) hu.2,
      List.replicate_append_replicate, ← List.count_append, List.singleton_append]

lemma Idle.uses (h : p.Idle k) (hu : .key (.press k) ∉ us) : (p.uses us).Idle k := by
  induction us generalizing p with
  | nil => exact h
  | cons u us ih =>
    rw [List.mem_cons, not_or] at hu
    exact ih (h.use (Ne.symm hu.1)) hu.2

lemma held_uses_of_up (h : p.held.get k = false) (hu : .key (.press k) ∉ us) :
    (p.uses us).held.get k = false := by
  induction us generalizing p with
  | nil => exact h
  | cons u us ih =>
    rw [List.mem_cons, not_or] at hu
    refine ih ?_ hu.2
    rw [Bool.eq_false_iff, ne_eq, held_use]
    simp [Ne.symm hu.1, h]

lemma idle_of_sampled (h : p.held.get k = false) (hs : .sample ∈ us)
    (hu : .key (.press k) ∉ us) : (p.uses us).Idle k := by
  obtain ⟨before, behind, rfl⟩ := List.append_of_mem hs
  simp only [List.mem_append, List.mem_cons, not_or] at hu
  have hb : (p.uses before).held.get k = false := held_uses_of_up h hu.1
  have hi : (p.uses before).sample.2.Idle k := ⟨hb, latched_sample _ k⟩
  rw [uses_append]
  exact hi.uses hu.2.2

lemma latched_of_pressed (hk : .key (.press k) ∈ us) (hu : ∀ u ∈ us, ¬ u.Unlatches) :
    (p.uses us).latched.get k = true := by
  induction us using List.reverseRecOn with
  | nil => cases hk
  | append_singleton us u ih =>
    rw [uses_concat, latched_use]
    rw [List.mem_append, List.mem_singleton] at hk
    obtain hk | hk := hk
    · exact .inr ⟨hu u (by simp), ih hk fun v hv => hu v (by simp [hv])⟩
    · exact .inl hk.symm

def Passes (k : Digit) (us : List KeypadUse) : Prop := ∀ u ∈ us, ¬ u.Affects k ∧ u ≠ .sample

inductive Tap (k : Digit) : List KeypadUse → Prop
  | mk {before between behind : List KeypadUse} :
    Passes k before → Passes k between → Passes k behind →
      Tap k (before ++ .key (.press k) :: between ++ .key (.release k) :: behind)

lemma Passes.use (h : ¬ u.Affects k ∧ u ≠ .sample) :
    (p.use u).held.get k = p.held.get k ∧ (p.use u).latched.get k = p.latched.get k := by
  obtain ⟨ha, hs⟩ := h
  have hp : u ≠ .key (.press k) := by
    rintro rfl
    exact ha rfl
  have hl : ¬ u.Unlatches := by
    cases u with
    | key e => exact id
    | releaseAll => exact fun _ => ha trivial
    | sample => exact fun _ => hs rfl
  refine ⟨Bool.eq_iff_iff.mpr ?_, Bool.eq_iff_iff.mpr ?_⟩
  · rw [held_use]
    tauto
  · rw [latched_use]
    tauto

lemma Passes.uses (h : Passes k us) :
    (p.uses us).held.get k = p.held.get k ∧ (p.uses us).latched.get k = p.latched.get k := by
  induction us generalizing p with
  | nil => exact ⟨rfl, rfl⟩
  | cons u us ih =>
    obtain ⟨hu, hus⟩ := List.forall_mem_cons.mp h
    obtain ⟨hh, hl⟩ := Passes.use (p := p) hu
    rw [← hh, ← hl]
    exact ih hus

lemma Passes.not_mem (h : Passes k us) : KeypadUse.sample ∉ us := fun hs => (h _ hs).2 rfl

lemma Tap.not_mem (h : Tap k us) : KeypadUse.sample ∉ us := by
  obtain ⟨h₁, h₂, h₃⟩ := h
  simp [h₁.not_mem, h₂.not_mem, h₃.not_mem]

lemma use_release : (p.use (.key (.release k))).held.get k = false ∧
    (p.use (.key (.release k))).latched.get k = p.latched.get k := by
  refine ⟨?_, congrArg (·.get k) (latched_release p k)⟩
  rw [Bool.eq_false_iff, ne_eq, held_use]
  simp [Affects]

lemma Tap.uses (h : Tap k us) :
    (p.uses us).held.get k = false ∧ (p.uses us).latched.get k = true := by
  cases h with
  | @mk before between behind h₁ h₂ h₃ =>
    let down := (p.uses before).use (.key (.press k))
    let up := (down.uses between).use (.key (.release k))
    have hd : down.latched.get k = true := latched_use.mpr (.inl rfl)
    have hu : up.held.get k = false ∧ up.latched.get k = true := by
      rw [use_release.1, use_release.2, h₂.uses.2, hd]
      exact ⟨rfl, rfl⟩
    have he : p.uses (before ++ .key (.press k) :: between ++ .key (.release k) :: behind) =
        up.uses behind := by
      rw [uses_append, uses_append]
      rfl
    rw [he, h₃.uses.1, h₃.uses.2]
    exact hu

lemma samples_tap (hk : p.sample.1.get k = false) (ht : Tap k us)
    (hv : .key (.press k) ∉ vs) :
    (p.samples (.sample :: us ++ .sample :: vs)).map (·.get k) =
      false :: true :: List.replicate (vs.count .sample) false := by
  obtain ⟨hh, hl⟩ := ht.uses (p := p.sample.2)
  have hs : (p.sample.2.uses us).sample.1.get k = true := sample_eq_true_iff.mpr (.inr hl)
  have hi : (p.sample.2.uses us).sample.2.Idle k := ⟨hh, latched_sample _ k⟩
  have he : p.samples (.sample :: us ++ .sample :: vs) =
      p.sample.1 :: (p.sample.2.uses us).sample.1 ::
        (p.sample.2.uses us).sample.2.samples vs := by
    change p.sample.1 :: p.sample.2.samples (us ++ .sample :: vs) = _
    rw [samples_append, samples_eq_nil ht.not_mem]
    rfl
  rw [he, List.map_cons, List.map_cons, hk, hs, hi.samples hv]

lemma use_of_no_key {j : ℤ} (hj : j < 0 ∨ 16 ≤ j) : p.press j = p ∧ p.release j = p := by
  have hd : Digit.ofInt? j = none := by
    cases hd : Digit.ofInt? j with
    | none => rfl
    | some d =>
      have hd := Digit.ofInt?_eq_some_iff.mp hd
      omega
  rw [press, release, hd]
  exact ⟨rfl, rfl⟩

theorem sample_after_history (us : List KeypadUse) (k : Digit) :
    ((released.uses us).sample.1.get k = true ↔
        Pressed k (Affects k) us ∨ Pressed k Unlatches us) ∧
      ((released.uses us).sample.1.get k = true → .key (.press k) ∈ us) ∧
      (∀ j : ℤ, j < 0 ∨ 16 ≤ j →
        (released.uses us).press j = released.uses us ∧
          (released.uses us).release j = released.uses us) ∧
      ((released.uses us).sample.2.held = (released.uses us).held ∧
        ∀ j, (released.uses us).sample.2.isPressed j = (released.uses us).isPressed j) ∧
      ∀ tap later, (released.uses us).sample.1.get k = false → Tap k tap →
        .key (.press k) ∉ later →
        ((released.uses us).samples (.sample :: tap ++ .sample :: later)).map (·.get k) =
          false :: true :: List.replicate (later.count .sample) false := by
  have hs : (released.uses us).sample.1.get k = true ↔
      Pressed k (Affects k) us ∨ Pressed k Unlatches us := by
    rw [sample_eq_true_iff, held_uses, latched_uses]
  refine ⟨hs, fun h => ?_, fun j hj => use_of_no_key hj, ⟨rfl, fun j => rfl⟩,
    fun tap later hk ht hl => samples_tap hk ht hl⟩
  obtain h | h := hs.mp h
  · exact h.mem
  · exact h.mem

theorem tap_seen_once :
    ((released.press 2).samples [.sample, .key (.press 7), .key (.release 2), .key (.release 7),
      .sample, .sample, .sample]).map (·.get 7) = [false, true, false, false] := by
  have hp (us : List KeypadUse) (h : us = [] ∨ us = [.key (.release 2)]) : Passes 7 us := by
    obtain rfl | rfl := h
    · exact List.forall_mem_nil _
    · rw [Passes, List.forall_mem_singleton]
      have h7 : (2 : ℤ) ≠ (7 : Digit) := by decide
      exact ⟨h7, by decide⟩
  have ht : Tap 7 [.key (.press 7), .key (.release 2), .key (.release 7)] :=
    .mk (hp [] (.inl rfl)) (hp _ (.inr rfl)) (hp [] (.inl rfl))
  obtain ⟨-, -, -, -, h⟩ := sample_after_history [.key (.press 2)] 7
  exact h _ [.sample, .sample] (by decide) ht (by decide)

end Keypad

end ChipEight
