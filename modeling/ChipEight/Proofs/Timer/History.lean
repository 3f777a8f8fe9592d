import ChipEight.Proofs.Memory.Contents
import ChipEight.Proofs.Processor.Runs
import ChipEight.Proofs.Timer

/-!
What a history leaves in the two counters. Each holds what was last written to it, less the steps
made since, and stops at zero. When the steps are made depends on the times alone, however these are
rounded, and on neither counter.
-/

namespace ChipEight

inductive Counter where
  | delay
  | sound
  deriving DecidableEq, Repr

def TimerEvent.written? {τ : Type} : Counter → TimerEvent τ → Option ℤ
  | .delay, writeDelay v => some v
  | .sound, writeSound v => some v
  | _, _ => none

namespace Timer

variable {τ : Type} [TimeScale τ]

omit [TimeScale τ] in
def get (t : Timer τ) : Counter → UInt8
  | .delay => t.delay
  | .sound => t.sound

def applyAll (t : Timer τ) (es : List (TimerEvent τ)) : Timer τ := es.foldl apply t

def decrement (t : Timer τ) : TimerEvent τ → ℕ
  | .tick elapsed =>
    match t.tick elapsed with
    | .done n _ => n
    | .failed _ _ => 0
  | .step => 1
  | .writeDelay _ | .writeSound _ => 0

def decrements (t : Timer τ) : List (TimerEvent τ) → ℕ
  | [] => 0
  | e :: es => t.decrement e + decrements (t.apply e) es

variable {t u : Timer τ} {c d : Counter} {e : TimerEvent τ} {es : List (TimerEvent τ)} {v : ℤ}
  {elapsed : τ}

omit [TimeScale τ] in
lemma toNat_countDown (b : UInt8) (n : ℕ) : (countDown b n).toNat = b.toNat - n := by
  have hb : b.toNat < 256 := b.toNat_lt
  rw [countDown, UInt8.toNat_ofNat_of_lt' (by simp only [UInt8.size]; omega)]

omit [TimeScale τ] in
lemma countDown_countDown (b : UInt8) (m n : ℕ) :
    countDown (countDown b m) n = countDown b (m + n) := by
  rw [countDown, toNat_countDown, Nat.sub_sub, countDown]

omit [TimeScale τ] in
lemma steps_steps (t : Timer τ) (m n : ℕ) : (t.steps m).steps n = t.steps (m + n) := by
  simp only [steps, countDown_countDown]

omit [TimeScale τ] in
lemma iterate_step (t : Timer τ) (n : ℕ) : step^[n] t = t.steps n := by
  induction n generalizing t with
  | zero => exact (steps_zero t).symm
  | succ n ih => rw [Function.iterate_succ_apply, ih, step, steps_steps, Nat.add_comm]

omit [TimeScale τ] in
lemma get_steps (t : Timer τ) (n : ℕ) (c : Counter) :
    (t.steps n).get c = countDown (t.get c) n := by
  cases c <;> rfl

omit [TimeScale τ] in
lemma countDown_zero (b : UInt8) : countDown b 0 = b := UInt8.toNat_inj.mp (toNat_countDown b 0)

lemma tick_congr (h : t.accumulator = u.accumulator) (elapsed : τ) :
    (∃ n a, t.tick elapsed = .done n ({ t with accumulator := a }.steps n) ∧
        u.tick elapsed = .done n ({ u with accumulator := a }.steps n)) ∨
      ∃ e a, t.tick elapsed = .failed e { t with accumulator := a } ∧
        u.tick elapsed = .failed e { u with accumulator := a } := by
  have hz (t : Timer τ) : { t with accumulator := t.accumulator }.steps 0 = t := steps_zero t
  rw [tick, tick, h]
  split
  · exact .inl ⟨0, u.accumulator, by rw [← h, hz], by rw [hz]⟩
  · dsimp only
    cases TimeScale.truncate ((u.accumulator + elapsed) * frequency + TimeScale.epsilon) with
    | error e => exact .inr ⟨e, _, rfl, rfl⟩
    | ok n =>
      by_cases hn : n = 0
      · simp only [hn, if_true]
        exact .inl ⟨0, u.accumulator + elapsed, congrArg _ (steps_zero _).symm,
          congrArg _ (steps_zero _).symm⟩
      · simp only [hn, if_false]
        exact .inl ⟨n.toNat, _, rfl, rfl⟩

lemma tick_of_le (h : TimeScale.le elapsed TimeScale.zero = true) (t : Timer τ) :
    t.tick elapsed = .done 0 t := by
  rw [tick, if_pos h]

lemma tick_done {n : ℕ} (h : t.tick elapsed = .done n u) :
    ∃ a, u = { step^[n] t with accumulator := a } := by
  obtain ⟨m, a, ht, -⟩ | ⟨e, a, ht, -⟩ := tick_congr (t := t) rfl elapsed
  · rw [ht] at h
    cases h
    rw [iterate_step]
    exact ⟨a, rfl⟩
  · rw [ht] at h
    cases h

lemma tick_failed {e : NotFinite} (h : t.tick elapsed = .failed e u) :
    ∃ a, u = { t with accumulator := a } := by
  obtain ⟨m, a, ht, -⟩ | ⟨e, a, ht, -⟩ := tick_congr (t := t) rfl elapsed
  · rw [ht] at h
    cases h
  · rw [ht] at h
    cases h
    exact ⟨a, rfl⟩

lemma get_apply_of_written (h : e.written? c = some v) : (t.apply e).get c = UInt8.ofInt v := by
  cases c <;> cases e <;> cases h <;> rfl

lemma get_apply (h : e.written? c = none) :
    (t.apply e).get c = countDown (t.get c) (t.decrement e) := by
  cases e with
  | tick elapsed =>
    obtain ⟨n, a, ht, -⟩ | ⟨e, a, ht, -⟩ := tick_congr (t := t) rfl elapsed
    · simp only [apply, decrement, ht]
      rw [get_steps]
      cases c <;> rfl
    · simp only [apply, decrement, ht, countDown_zero]
      cases c <;> rfl
  | step => exact get_steps t 1 c
  | writeDelay v =>
    cases c with
    | delay => cases h
    | sound => exact (countDown_zero _).symm
  | writeSound v =>
    cases c with
    | delay => exact (countDown_zero _).symm
    | sound => cases h

lemma get_applyAll (h : ∀ e ∈ es, e.written? c = none) :
    ((t.applyAll es).get c).toNat = (t.get c).toNat - t.decrements es := by
  induction es generalizing t with
  | nil => rfl
  | cons e es ih =>
    obtain ⟨he, hes⟩ := List.forall_mem_cons.mp h
    have hr := ih (t := t.apply e) hes
    rw [get_apply he, toNat_countDown, Nat.sub_sub] at hr
    exact hr

lemma applyAll_append (es es' : List (TimerEvent τ)) :
    t.applyAll (es ++ es') = (t.applyAll es).applyAll es' := List.foldl_append ..

structure AgreeOn (c : Counter) (t u : Timer τ) : Prop where
  get : t.get c = u.get c
  accumulator : t.accumulator = u.accumulator

lemma AgreeOn.decrement (h : AgreeOn c t u) (e : TimerEvent τ) :
    t.decrement e = u.decrement e := by
  cases e with
  | tick elapsed =>
    obtain ⟨n, a, ht, hu⟩ | ⟨e, a, ht, hu⟩ := tick_congr h.accumulator elapsed
    · simp only [Timer.decrement, ht, hu]
    · simp only [Timer.decrement, ht, hu]
  | _ => rfl

lemma AgreeOn.apply (h : AgreeOn c t u) (e : TimerEvent τ) : AgreeOn c (t.apply e) (u.apply e) := by
  constructor
  · cases hw : e.written? c with
    | some v => rw [get_apply_of_written hw, get_apply_of_written hw]
    | none => rw [get_apply hw, get_apply hw, h.get, h.decrement e]
  · cases e with
    | tick elapsed =>
      obtain ⟨n, a, ht, hu⟩ | ⟨e, a, ht, hu⟩ := tick_congr h.accumulator elapsed
      · simp only [Timer.apply, ht, hu, steps]
      · simp only [Timer.apply, ht, hu]
    | _ => exact h.accumulator

lemma AgreeOn.write_other (h : AgreeOn c t u) (hd : d ≠ c) (hw : e.written? d = some v) :
    AgreeOn c (t.apply e) u ∧ t.decrement e = 0 := by
  cases e with
  | writeDelay v =>
    cases d with
    | delay =>
      cases c with
      | delay => exact absurd rfl hd
      | sound => exact ⟨⟨h.get, h.accumulator⟩, rfl⟩
    | sound => cases hw
  | writeSound v =>
    cases d with
    | delay => cases hw
    | sound =>
      cases c with
      | delay => exact ⟨⟨h.get, h.accumulator⟩, rfl⟩
      | sound => exact absurd rfl hd
  | _ => cases d <;> cases hw

lemma AgreeOn.applyAll (h : AgreeOn c t u) (hd : d ≠ c) (es : List (TimerEvent τ)) :
    AgreeOn c (t.applyAll es) (u.applyAll (es.filter fun e => (e.written? d).isNone)) ∧
      t.decrements es = u.decrements (es.filter fun e => (e.written? d).isNone) := by
  induction es generalizing t u with
  | nil => exact ⟨h, rfl⟩
  | cons e es ih =>
    cases hw : e.written? d with
    | some v =>
      obtain ⟨ha, hz⟩ := h.write_other hd hw
      rw [List.filter_cons_of_neg (by simp [hw]), decrements, hz, Nat.zero_add]
      exact ih ha
    | none =>
      obtain ⟨ha, hn⟩ := ih (h.apply e)
      rw [List.filter_cons_of_pos (by simp [hw]), decrements, decrements, h.decrement e, hn]
      exact ⟨ha, rfl⟩

/-- A counter holds what was last written to it, or zero, less the steps made since. -/
theorem counters_of_history (es : List (TimerEvent τ)) (c : Counter) :
    ((∀ e ∈ es, e.written? c = none) →
      (((stopped.applyAll es).get c).toNat : ℤ) = max 0 (0 - stopped.decrements es)) ∧
    (∀ earlier e later, ∀ v : ℤ, es = earlier ++ e :: later → e.written? c = some v →
      (∀ l ∈ later, l.written? c = none) →
      (((stopped.applyAll es).get c).toNat : ℤ) =
        max 0 (v % 256 - (stopped.applyAll (earlier ++ [e])).decrements later)) ∧
    (∀ d ≠ c, ∀ t u : Timer τ, AgreeOn c t u →
      AgreeOn c (t.applyAll es) (u.applyAll (es.filter fun e => (e.written? d).isNone)) ∧
        t.decrements es = u.decrements (es.filter fun e => (e.written? d).isNone)) ∧
    ∀ (t : Timer τ) (elapsed : τ),
      (TimeScale.le elapsed TimeScale.zero = true → t.tick elapsed = .done 0 t) ∧
      (∀ n t', t.tick elapsed = .done n t' → ∃ a, t' = { step^[n] t with accumulator := a }) ∧
      ∀ e t', t.tick elapsed = .failed e t' → ∃ a, t' = { t with accumulator := a } := by
  refine ⟨fun h => ?_, fun earlier e later v hes hv hl => ?_, fun d hd t u h => h.applyAll hd es,
    fun t elapsed => ⟨fun h => tick_of_le h t, fun n t' h => tick_done h,
      fun e t' h => tick_failed h⟩⟩
  · have hz : ((stopped : Timer τ).get c).toNat = 0 := by cases c <;> rfl
    rw [get_applyAll h, hz]
    omega
  · have hb : (UInt8.ofInt v).toNat = (v % 256).toNat := Memory.toNat_ofInt v
    have hw : ((stopped.applyAll (earlier ++ [e])).get c) = UInt8.ofInt v := by
      rw [applyAll_append]
      exact get_apply_of_written hv
    rw [hes, ← List.singleton_append, ← List.append_assoc, applyAll_append, get_applyAll hl, hw, hb]
    omega

def rewriting : List (TimerEvent ℚ) :=
  [.writeDelay 300, .writeSound 2, .tick (1 / 30), .step, .writeSound (-1), .tick (-1),
    .tick (1 / 60)]

theorem rewriting_counts :
    ((stopped.applyAll rewriting).get .delay).toNat = 40 ∧
      ((stopped.applyAll rewriting).get .sound).toNat = 254 ∧
      AgreeOn .delay (stopped.applyAll rewriting)
        (stopped.applyAll [.writeDelay 300, .tick (1 / 30), .step, .tick (-1), .tick (1 / 60)]) ∧
      (stopped : Timer ℚ).tick (-1) = .done 0 stopped := by
  obtain ⟨-, hdelay, hother, htick⟩ := counters_of_history rewriting .delay
  obtain ⟨-, hsound, -⟩ := counters_of_history rewriting .sound
  have hd : (stopped.applyAll ([] ++ [.writeDelay 300])).decrements rewriting.tail = 4 := by
    decide +kernel
  have hs : (stopped.applyAll (rewriting.take 4 ++ [.writeSound (-1)])).decrements
      (rewriting.drop 5) = 1 := by
    decide +kernel
  have hd40 := hdelay [] (.writeDelay 300) rewriting.tail 300 rfl rfl
    (by simp [rewriting, TimerEvent.written?])
  have hs254 := hsound (rewriting.take 4) (.writeSound (-1)) (rewriting.drop 5) (-1) rfl rfl
    (by simp [rewriting, TimerEvent.written?])
  rw [hd] at hd40
  rw [hs] at hs254
  refine ⟨by omega, by omega, ?_, (htick stopped (-1)).1 (by decide +kernel)⟩
  exact (hother .sound (by decide) stopped stopped ⟨rfl, rfl⟩).1

end Timer

end ChipEight
