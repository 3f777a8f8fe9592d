import ChipEight.Proofs.Processor.KeyWait

/-!
How instructions are counted. An instruction is completed by the cycle that answers it and leaves no
wait behind. The count goes up with every one of them, and once more with every wait for a key that
begins: an instruction that waits is counted when it is suspended and again when it is completed.
-/

namespace ChipEight.Processor

variable {τ : Type} [TimeScale τ] {s : Processor τ} {a : Action τ}

def completed? (s : Processor τ) (a : Action τ) : Option Instruction :=
  if (s.act a).wait = none then s.answer? a else none

def completions (s : Processor τ) : List (Action τ) → List Instruction
  | [] => []
  | a :: as => (s.completed? a).toList ++ completions (s.act a) as

def pending (s : Processor τ) : ℕ := if s.wait = none then 0 else 1

def awaited (is : List Instruction) : ℕ := is.countP (·.opcode = .ldVxK)

def ordinary (is : List Instruction) : ℕ := is.countP (·.opcode ≠ .ldVxK)

inductive Counts (s : Processor τ) (a : Action τ) : Prop
  | idle (answer : s.completed? a = none) (wait : (s.act a).wait = none ↔ s.wait = none)
      (executed : (s.act a).executed = s.executed)
  | request (answer : s.completed? a = none) (before : s.wait = none)
      (after : (s.act a).wait ≠ none) (executed : (s.act a).executed = s.executed + 1)
  | completion {i : Instruction} (answer : s.completed? a = some i)
      (before : i.opcode = .ldVxK ↔ s.wait ≠ none) (after : (s.act a).wait = none)
      (executed : (s.act a).executed = s.executed + 1)

lemma completed?_of_wait (h : (s.act a).wait ≠ none) : s.completed? a = none := if_neg h

lemma completed?_of_answer {r : Option Instruction} (h : (s.act a).wait = none)
    (ha : s.answer? a = r) : s.completed? a = r := by
  rw [completed?, if_pos h, ha]

lemma act_of_done {r : Option Instruction} {t : Processor τ} (h : s.cycle = .done r t) :
    s.act .cycle = t := by
  rw [act, h, Outcome.state]

omit [TimeScale τ] in
lemma answer?_of_done {r : Option Instruction} {t : Processor τ} (h : s.cycle = .done r t) :
    s.answer? .cycle = r := by
  rw [answer?, h]

lemma counts_failed {f : Fault} {t : Processor τ} (h : s.cycle = .failed f t) :
    Counts s .cycle := by
  have ht : s.act .cycle = t := by rw [act, h, Outcome.state]
  have ha : s.answer? .cycle = none := by rw [answer?, h]
  obtain ⟨hs, hf⟩ := cycle_failed_iff.mp h
  have hw : (s.act .cycle).wait = none := by rw [ht, wait_of_failed h]
  refine .idle (completed?_of_answer hw ha) (iff_of_true hw hs) ?_
  rw [ht]
  obtain ⟨-, rfl⟩ | ⟨i, -, -, rfl⟩ := hf
  · rfl
  · rfl

lemma WellFormed.counts_done {r : Option Instruction} {t : Processor τ} (h : WellFormed s)
    (hc : s.cycle = .done r t) : Counts s .cycle := by
  have ht := act_of_done hc
  have ha := answer?_of_done hc
  -- the wait goes on, or it ends, or an instruction is executed, which may begin one
  obtain ⟨w, hw, -, hq⟩ | ⟨i, k, hr, hw, -, ho, hq⟩ | ⟨i, u, hr, hw, -, he, hq⟩ := h.done_cases hc
  · have hn : (s.act .cycle).wait ≠ none := by simp [ht, hq]
    exact .idle (completed?_of_wait hn) (iff_of_false hn (by simp [hw])) (by rw [ht, hq]; rfl)
  · have hn : (s.act .cycle).wait = none := by rw [ht, hq]
    exact .completion (completed?_of_answer hn (ha.trans hr))
      (iff_of_true ho (Option.isSome_iff_ne_none.mp hw)) hn (by rw [ht, hq])
  · have e := execute_effect he
    have hx : (s.act .cycle).executed = s.executed + 1 := by
      rw [ht, hq, e.executed]
      rfl
    have hu : (s.act .cycle).wait = if i.opcode = .ldVxK then some ⟨i.x, i, s.keys⟩ else none := by
      rw [ht, hq, e.wait]
      exact congrArg _ hw
    by_cases ho : i.opcode = .ldVxK
    · have hn : (s.act .cycle).wait ≠ none := by simp [hu, ho]
      exact .request (completed?_of_wait hn) hw hn hx
    · rw [if_neg ho] at hu
      have hn := completed?_of_answer hu (ha.trans hr)
      exact .completion hn (iff_of_false ho (by simp [hw])) hu hx

lemma WellFormed.counts (h : WellFormed s) (a : Action τ) : Counts s a := by
  cases a with
  | event e => exact .idle (ite_self _) Iff.rfl rfl
  | cycle =>
    cases hc : s.cycle with
    | failed f t => exact counts_failed hc
    | done r t => exact h.counts_done hc

omit [TimeScale τ] in
lemma pending_of_none (h : s.wait = none) : s.pending = 0 := if_pos h

omit [TimeScale τ] in
lemma pending_of_wait (h : s.wait ≠ none) : s.pending = 1 := if_neg h

lemma ordinary_append (is js : List Instruction) :
    ordinary (is ++ js) = ordinary is + ordinary js := List.countP_append

lemma awaited_append (is js : List Instruction) :
    awaited (is ++ js) = awaited is + awaited js := List.countP_append

lemma length_eq_ordinary_add_awaited (is : List Instruction) :
    is.length = ordinary is + awaited is := by
  rw [List.length_eq_countP_add_countP (fun i => i.opcode = .ldVxK), Nat.add_comm, ordinary]
  simp [awaited]

lemma awaited_eq_zero_iff {is : List Instruction} :
    awaited is = 0 ↔ ∀ i ∈ is, i.opcode ≠ .ldVxK := by
  simp [awaited, List.countP_eq_zero]

lemma Counts.executed_act (h : Counts s a) :
    (s.act a).executed + s.pending =
      s.executed + ordinary (s.completed? a).toList + 2 * awaited (s.completed? a).toList +
        (s.act a).pending := by
  cases h with
  | idle answer wait executed =>
    have hp : (s.act a).pending = s.pending := by simp only [pending, wait]
    rw [answer, executed, hp]
    rfl
  | request answer before after executed =>
    rw [answer, executed, pending_of_none before, pending_of_wait after]
    rfl
  | @completion i answer before after executed =>
    rw [answer, executed, pending_of_none after, Option.toList_some]
    by_cases ho : i.opcode = .ldVxK
    · have hn : ordinary [i] = 0 := by simp [ordinary, ho]
      have ha : awaited [i] = 1 := by simp [awaited, ho]
      rw [hn, ha, pending_of_wait (before.mp ho)]
    · have hn : ordinary [i] = 1 := by simp [ordinary, ho]
      have ha : awaited [i] = 0 := by simp [awaited, ho]
      rw [hn, ha, pending_of_none (not_not.mp (before.not.mp ho))]

lemma WellFormed.executed_run (h : WellFormed s) (as : List (Action τ)) :
    (s.run as).executed + s.pending =
      s.executed + ordinary (s.completions as) + 2 * awaited (s.completions as) +
        (s.run as).pending := by
  induction as generalizing s with
  | nil => rfl
  | cons a as ih =>
    have ha := (h.counts a).executed_act
    have hr : ((s.act a).run as).executed + _ = _ := ih (wellFormed_act h a)
    change ((s.act a).run as).executed + _ = _ + ((s.act a).run as).pending
    rw [completions, ordinary_append, awaited_append]
    omega

/-- Made from any setup, with anything in its memory. -/
def New (s : Processor τ) : Prop :=
  ∃ setup t memory, start? setup = .ok t ∧ s = { t with memory }

lemma New.wellFormed (h : New s) : WellFormed s := by
  obtain ⟨setup, t, memory, ht, rfl⟩ := h
  exact .start memory ht

lemma New.wait (h : New s) : s.wait = none := by
  obtain ⟨setup, t, memory, ht, rfl⟩ := h
  obtain ⟨stack, source, -, rfl⟩ := start?_eq_ok ht
  rfl

lemma New.executed (h : New s) : s.executed = 0 := by
  obtain ⟨setup, t, memory, ht, rfl⟩ := h
  obtain ⟨stack, source, -, rfl⟩ := start?_eq_ok ht
  rfl

lemma asking_new : New asking :=
  ⟨{ Setup.standard with randomBytes := some #[] }, _, _, rfl, rfl⟩

lemma WellFormed.executed_eq (h : WellFormed s) (hw : s.wait = none) (he : s.executed = 0)
    (as : List (Action τ)) :
    (s.run as).executed =
      ordinary (s.completions as) + 2 * awaited (s.completions as) + (s.run as).pending := by
  have hr := h.executed_run as
  rw [pending_of_none hw, he, Nat.add_zero, Nat.zero_add] at hr
  exact hr

lemma executed_eq_length_iff {as : List (Action τ)}
    (h : (s.run as).executed =
      ordinary (s.completions as) + 2 * awaited (s.completions as) + (s.run as).pending) :
    (s.run as).executed = (s.completions as).length ↔
      (s.run as).wait = none ∧ ∀ i ∈ s.completions as, i.opcode ≠ .ldVxK := by
  rw [h, length_eq_ordinary_add_awaited, ← awaited_eq_zero_iff]
  by_cases hw : (s.run as).wait = none
  · rw [pending_of_none hw]
    simp only [hw, true_and]
    omega
  · rw [pending_of_wait hw]
    simp only [hw, false_and, iff_false]
    omega

theorem executed_of_run (h : New s) (as : List (Action τ)) :
    (∀ a, Counts (s.run as) a) ∧
      (s.run as).executed =
        ordinary (s.completions as) + 2 * awaited (s.completions as) + (s.run as).pending ∧
      ((s.run as).executed = (s.completions as).length ↔
        (s.run as).wait = none ∧ ∀ i ∈ s.completions as, i.opcode ≠ .ldVxK) := by
  have hs := h.wellFormed
  have hr := hs.executed_eq h.wait h.executed as
  exact ⟨(wellFormed_run hs as).counts, hr, executed_eq_length_iff hr⟩

def pressing : ℕ → List (Event ℚ) := fun _ => [.key (.press 2)]

def tapping : List (Action ℚ) := [.cycle, .event (.key (.press 2)), .cycle]

def tapped : Processor ℚ := asking.before pressing 1

lemma act_asking : (asking.act .cycle).act (.event (.key (.press 2))) = tapped := rfl

lemma newKeys_tapped : Keypad.newKeys asking.keys tapped.keys = {2} := by
  ext k
  have hm : k ∈ Keypad.newKeys (asking.before pressing 0).keys
      (asking.before pressing 1).keys ↔ _ := mem_newKeys_before [.press 2] rfl
  have ha : asking.keys.get k = false := by
    rw [keys, Keypad.get_sample]
    change (Vector.get (.replicate 16 false) k || Vector.get (.replicate 16 false) k) = false
    rw [Keypad.get_none, Bool.or_self]
  rw [tapped, Set.mem_singleton_iff]
  refine hm.trans ⟨?_, ?_⟩
  · rintro ⟨-, hk⟩
    rw [List.mem_singleton, KeyEvent.press.injEq] at hk
    exact Fin.ext (Int.ofNat_inj.mp hk)
  · rintro rfl
    exact ⟨ha, List.mem_singleton_self _⟩

lemma tapped_wait : tapped.wait = some ⟨2, ⟨0xF20A⟩, asking.keys⟩ := by
  rw [tapped, before, wait_undergoAll, before, asking_cycle]
  rfl

lemma tapped_cycle : ∃ t, tapped.cycle = .done (some ⟨0xF20A⟩) t ∧ t.wait = none := by
  have hk : IsLeast (Keypad.newKeys asking.keys tapped.keys) 2 := by
    rw [newKeys_tapped]
    exact isLeast_singleton
  exact ⟨_, cycle_answered tapped_wait hk, rfl⟩

lemma tapping_completes :
    asking.completions tapping = [⟨0xF20A⟩] ∧ (asking.run tapping).wait = none := by
  obtain ⟨t, hc, ht⟩ := tapped_cycle
  have ha := act_of_done hc
  have h₁ : asking.completed? .cycle = none := by
    refine completed?_of_wait ?_
    rw [act_of_done asking_cycle]
    exact Option.some_ne_none _
  have h₂ : (asking.act .cycle).completed? (.event (.key (.press 2))) = none := ite_self _
  have h₃ : tapped.completed? .cycle = some ⟨0xF20A⟩ :=
    completed?_of_answer (by rw [ha, ht]) (answer?_of_done hc)
  refine ⟨?_, ?_⟩
  · rw [tapping, completions, completions, completions, act_asking, h₁, h₂, h₃]
    rfl
  · rw [run, tapping, List.foldl_cons, List.foldl_cons, act_asking, List.foldl_cons, ha]
    exact ht

theorem tapping_counted_twice :
    asking.completions tapping = [⟨0xF20A⟩] ∧ (asking.run tapping).executed = 2 := by
  obtain ⟨hs, hw⟩ := tapping_completes
  obtain ⟨-, he, -⟩ := executed_of_run asking_new tapping
  rw [hs, pending_of_none hw] at he
  exact ⟨hs, he⟩

end ChipEight.Processor
