import ChipEight.Proofs.Processor.Calls

/-!
Which instruction may change what. Every part of a processor belongs to a few instructions; a cycle
that completes none of these leaves it as it was.
-/

namespace ChipEight

namespace Instruction

def targets (i : Instruction) : Set Digit :=
  match i.opcode with
  | .ldVxKk | .addVxKk | .ldVxVy | .or | .and | .xor | .rnd | .ldVxDt | .ldVxK => {i.x}
  | .addVxVy | .sub | .shr | .subn | .shl => {i.x, Registers.flag}
  | .drw => {Registers.flag}
  | .ldVxMem => Set.Iic i.x
  | _ => ∅

def stores (i : Instruction) (index : ℤ) : Set ℤ :=
  match i.opcode with
  | .ldBVx => Set.Ico index (index + 3)
  | .ldMemVx => Set.Ico index (index + i.x + 1)
  | _ => ∅

end Instruction

namespace RandomSource

def after (r : RandomSource) (n : ℕ) : RandomSource := (fun r => r.draw.2)^[n] r

def value (r : RandomSource) (n : ℕ) : UInt8 := (r.after n).draw.1

lemma after_add (r : RandomSource) (m n : ℕ) : (r.after m).after n = r.after (m + n) := by
  rw [after, after, after, Nat.add_comm m n, Function.iterate_add_apply]

end RandomSource

lemma Registers.get_fill (r : Registers) (bytes : List UInt8) (k : Digit) :
    (r.fill bytes).get k = (bytes[k.val]?).getD (r.get k) := by
  have hv := Bytes.getElem?_splice r.v 0 bytes k.val
  rw [if_pos ⟨Nat.zero_le _, k.isLt⟩, Nat.sub_zero, Vector.getElem?_eq_getElem k.isLt,
    Vector.getElem?_eq_getElem k.isLt, Option.or_some, Option.some_inj] at hv
  exact hv

namespace Processor

variable {τ : Type} {s t : Processor τ} {i : Instruction} {keys : KeySample} {x k : Digit}

lemma v_setV (b : UInt8) : (s.setV x b).v k = if x = k then b else s.v k := by
  change (s.registers.v.setIfInBounds x.val b)[k.val] = if x = k then b else s.registers.v[k.val]
  simp only [Vector.getElem_setIfInBounds, Fin.ext_iff]

lemma v_setV_of_ne (b : UInt8) (h : k ≠ x) : (s.setV x b).v k = s.v k := by
  rw [v_setV, if_neg h.symm]

lemma v_setFlag_of_ne (on : Bool) (h : k ≠ Registers.flag) : (s.setFlag on).v k = s.v k :=
  v_setV_of_ne _ h

lemma v_setResult (b : UInt8) (on : Bool) (h : k ∉ ({x, Registers.flag} : Set Digit)) :
    (s.setResult x b on).v k = s.v k := by
  rw [Set.mem_insert_iff, Set.mem_singleton_iff, not_or] at h
  rw [setResult, v_setFlag_of_ne _ h.2, v_setV_of_ne _ h.1]

lemma v_load (h : s.load x = .done () t) (hk : x < k) : t.v k = s.v k := by
  obtain ⟨bytes, hb, rfl⟩ := load_done h
  obtain ⟨-, hb⟩ := Memory.readBlock_eq_ok_iff.mp hb
  have hl : bytes.length = x + 1 := by simp [hb, Memory.slice]
  have hn : bytes[k.val]? = none := by
    rw [List.getElem?_eq_none_iff, hl]
    exact hk
  change (s.registers.fill bytes).get k = s.registers.get k
  rw [Registers.get_fill, hn, Option.getD_none]

lemma execute_v (h : (s.advance 1).execute keys i = .done () t) (hk : k ∉ i.targets) :
    t.v k = s.v k := by
  rw [execute] at h
  rw [Instruction.targets] at hk
  cases ho : i.opcode with
  | ldVxKk | addVxKk | ldVxVy | or | and | xor | rnd | ldVxDt =>
    simp only [ho, Outcome.done.injEq, true_and, Set.mem_singleton_iff] at h hk
    subst h
    exact v_setV_of_ne _ hk
  | addVxVy | sub | shr | subn | shl =>
    simp only [ho, Outcome.done.injEq, true_and] at h hk
    subst h
    exact v_setResult _ _ hk
  | drw =>
    simp only [ho, Set.mem_singleton_iff] at h hk
    obtain ⟨sprite, -, rfl⟩ := draw_done h
    exact v_setFlag_of_ne _ hk
  | ldVxMem =>
    -- the registers up to Vx are filled, those above it are not reached
    simp only [ho, Set.mem_Iic, not_le] at h hk
    change t.v k = (s.advance 1).v k
    exact v_load h hk
  | ldBVx =>
    rw [ho] at h
    obtain ⟨memory, -, rfl⟩ := storeDecimal_done h
    rfl
  | ldMemVx =>
    rw [ho] at h
    obtain ⟨memory, -, rfl⟩ := store_done h
    rfl
  | ret =>
    rw [ho] at h
    obtain ⟨addr, rest, -, rfl⟩ := ret_done_iff.mp h
    rfl
  | call =>
    rw [ho] at h
    obtain ⟨-, rfl⟩ := call_done_iff.mp h
    rfl
  | unknown =>
    rw [ho] at h
    obtain ⟨-, rfl⟩ := unknown_done_iff.mp h
    rfl
  | seVxKk | sneVxKk | seVxVy | sneVxVy | skp | sknp =>
    simp only [ho, Outcome.done.injEq, true_and, skipIf_eq] at h
    subst h
    rfl
  | _ =>
    simp only [ho, Outcome.done.injEq, true_and] at h
    subst h
    rfl

lemma execute_cell (h : (s.advance 1).execute keys i = .done () t) {a : ℕ}
    (ha : (a : ℤ) ∉ i.stores s.registers.index) : t.memory.cell a = s.memory.cell a := by
  have e := execute_effect h
  rw [Instruction.stores] at ha
  rw [execute] at h
  cases ho : i.opcode with
  | ldBVx =>
    simp only [ho] at h ha
    obtain ⟨memory, hm, rfl⟩ := storeDecimal_done h
    exact Memory.cell_writeBlock_outside hm ha
  | ldMemVx =>
    simp only [ho] at h ha
    obtain ⟨memory, hm, rfl⟩ := store_done h
    refine Memory.cell_writeBlock_outside hm ?_
    rw [length_upTo]
    push_cast
    rwa [← add_assoc]
  | _ => rw [e.memory (by simp [ho])]

/-- What a cycle that answers `i` leaves as it was. -/
structure Owned (s : Processor τ) (i : Instruction) (t : Processor τ) : Prop where
  memory : ∀ a : ℕ, (a : ℤ) ∉ i.stores s.registers.index → t.memory.cell a = s.memory.cell a
  screen : i.opcode ∉ [.cls, .drw] → t.screen = s.screen
  stack : i.opcode ∉ [.call, .ret] → t.stack = s.stack
  called : i.opcode = .call →
    t.stack = { s.stack with frames := (s.registers.pc + 2) :: s.stack.frames }
  returned : i.opcode = .ret → ∃ top, s.stack = { t.stack with frames := top :: t.stack.frames }
  delay : i.opcode ≠ .ldDtVx → t.timer.delay = s.timer.delay
  sound : i.opcode ≠ .ldStVx → t.timer.sound = s.timer.sound
  accumulator : t.timer.accumulator = s.timer.accumulator
  index : i.opcode ∉ [.ldI, .addIVx, .ldFVx, .ldMemVx, .ldVxMem] →
    t.registers.index = s.registers.index
  random : t.random = if i.opcode = .rnd then s.random.draw.2 else s.random
  keypad : t.keypad = { s.keypad with latched := Vector.replicate 16 false }
  v : ∀ k ∉ i.targets, t.v k = s.v k
  unknown : i.opcode = .unknown →
    t = { s with
      registers := { s.registers with pc := s.registers.pc + 2 }
      keypad := { s.keypad with latched := Vector.replicate 16 false }
      executed := s.executed + 1
      unknowns := s.unknowns + 1 }

lemma timerAfter_delay (ho : i.opcode ≠ .ldDtVx) : (s.timerAfter i).delay = s.timer.delay := by
  rw [timerAfter]
  split
  · contradiction
  · rfl
  · rfl

lemma timerAfter_sound (ho : i.opcode ≠ .ldStVx) : (s.timerAfter i).sound = s.timer.sound := by
  rw [timerAfter]
  split
  · rfl
  · contradiction
  · rfl

lemma timerAfter_accumulator : (s.timerAfter i).accumulator = s.timer.accumulator := by
  rw [timerAfter]
  split <;> rfl

lemma indexAfter_of_not_mem (ho : i.opcode ∉ [.ldI, .addIVx, .ldFVx, .ldMemVx, .ldVxMem]) :
    s.indexAfter i = s.registers.index := by
  rw [indexAfter]
  split <;> simp_all

lemma advance_one_eq (s : Processor τ) :
    s.advance 1 = { s with registers := { s.registers with pc := s.registers.pc + 2 } } := by
  rw [advance, Registers.advance_eq]
  rfl

lemma execute_owned (h : (s.sampled.advance 1).execute keys i = .done () t) :
    Owned s i { t with executed := t.executed + 1 } := by
  have e := execute_effect h
  have hv (k : Digit) (hk : k ∉ i.targets) := execute_v h hk
  have hstack := stack_of_other h
  have hcall := stack_of_call h
  have hret := stack_of_ret h
  exact {
    memory := fun a ha => execute_cell h ha
    screen := e.screen
    stack := hstack
    called := fun ho => by
      have hp : (s.registers.advance 1).pc = s.registers.pc + 2 := Registers.pc_advance _ 1
      rw [← hp]
      exact hcall ho
    returned := fun ho => ⟨_, hret ho⟩
    delay := fun ho => by rw [e.timer, timerAfter_delay ho]; rfl
    sound := fun ho => by rw [e.timer, timerAfter_sound ho]; rfl
    accumulator := by rw [e.timer, timerAfter_accumulator]; rfl
    index := fun ho => by rw [e.index, indexAfter_of_not_mem ho]; rfl
    random := e.random
    keypad := e.keypad
    v := hv
    unknown := fun ho => by
      rw [execute, ho] at h
      obtain ⟨-, rfl⟩ := unknown_done_iff.mp h
      rw [advance_one_eq]
      rfl }

lemma answered_owned (ho : i.opcode = .ldVxK) :
    Owned s i { s.sampled with
      registers := (s.registers.set i.x (.ofNat k)).advance 1
      wait := none
      executed := s.executed + 1 } where
  memory _ _ := rfl
  screen _ := rfl
  stack _ := rfl
  called hc := by simp [ho] at hc
  returned hr := by simp [ho] at hr
  delay _ := rfl
  sound _ := rfl
  accumulator := rfl
  index _ := rfl
  random := by simp only [ho, reduceCtorEq, if_false]; rfl
  keypad := rfl
  v j hj := by
    have hx : j ≠ i.x := by simpa [Instruction.targets, ho] using hj
    exact v_setV_of_ne _ hx
  unknown hu := by simp [ho] at hu

lemma WellFormed.owned (h : WellFormed s) (hc : s.cycle = .done (some i) t) : Owned s i t := by
  obtain ⟨k, -, -, ho, rfl⟩ | ⟨u, -, -, he, rfl⟩ := h.answered_cases hc
  · exact answered_owned ho
  · exact execute_owned he

def draws [TimeScale τ] (s : Processor τ) (as : List (Action τ)) : ℕ :=
  (s.answers as).countP (·.opcode = .rnd)

lemma WellFormed.random_act [TimeScale τ] (h : WellFormed s) (a : Action τ) :
    (s.act a).random = s.random.after ((s.answer? a).toList.countP (·.opcode = .rnd)) := by
  cases a with
  | event e => rfl
  | cycle =>
    rw [act, answer?]
    cases hc : s.cycle with
    | failed f u =>
      obtain ⟨-, ⟨-, rfl⟩ | ⟨i, -, -, rfl⟩⟩ := cycle_failed_iff.mp hc
      · rfl
      · rfl
    | done r u =>
      cases r with
      | none =>
        obtain ⟨w, -, rfl⟩ := h.quiet hc
        rfl
      | some i =>
        have hr := (h.owned hc).random
        rw [Outcome.state, hr, Option.toList_some, List.countP_singleton]
        split <;> simp_all <;> rfl

lemma Reachable.random_run [TimeScale τ] (h : Reachable s) (as : List (Action τ)) :
    (s.run as).random = s.random.after (s.draws as) := by
  induction as generalizing s with
  | nil => rfl
  | cons a as ih =>
    have ha := h.wellFormed.random_act a
    rw [draws, answers, List.countP_append, ← RandomSource.after_add, ← ha]
    exact ih (h.act a)

lemma v_rnd (x : Digit) (mask : UInt8) : (s.rnd x mask).v x = s.random.draw.1 &&& mask := by
  rw [rnd, v_setV, if_pos rfl]

lemma WellFormed.drawn (h : WellFormed s) (hc : s.cycle = .done (some i) t)
    (ho : i.opcode = .rnd) : t.v i.x = s.random.draw.1 &&& i.kk := by
  obtain ⟨-, u, he, rfl⟩ := h.executed hc (by simp [ho])
  rw [Processor.execute, ho, Outcome.done.injEq] at he
  obtain ⟨-, rfl⟩ := he
  exact v_rnd _ _

theorem cycle_owned [TimeScale τ] (h : Reachable s) :
    (∀ t, s.cycle = .done none t →
        ∃ w, s.wait = some w ∧
          t = { s.sampled with wait := some { w with previous := s.keys } }) ∧
      (∀ i t, s.cycle = .done (some i) t →
        Owned s i t ∧
          (i.opcode ∈ [.addVxKk, .addIVx] → i.x ≠ Registers.flag →
            t.v Registers.flag = s.v Registers.flag)) ∧
      ∀ as : List (Action τ),
        (s.run as).random = s.random.after (s.draws as) ∧
          ∀ i t, (s.run as).cycle = .done (some i) t → i.opcode = .rnd →
            t.v i.x = s.random.value (s.draws as) &&& i.kk := by
  refine ⟨fun t hc => h.wellFormed.quiet hc, fun i t hc => ?_, fun as => ?_⟩
  · have ho := h.wellFormed.owned hc
    refine ⟨ho, fun hi hx => ho.v _ ?_⟩
    simp only [List.mem_cons, List.not_mem_nil, or_false] at hi
    obtain hi | hi := hi
    · simpa [Instruction.targets, hi] using hx.symm
    · simp [Instruction.targets, hi]
  · refine ⟨h.random_run as, fun i t hc ho => ?_⟩
    rw [RandomSource.value, ← h.random_run as]
    exact (h.run as).wellFormed.drawn hc ho

def storing : Processor ℚ := booted [0xF1, 0x55]

theorem storing_owned :
    ∃ t, storing.cycle = .done (some ⟨0xF155⟩) t ∧ t.memory.cell 2 = storing.memory.cell 2 ∧
      t.screen = storing.screen ∧ t.stack = storing.stack ∧ t.v 1 = storing.v 1 := by
  have hi : storing.next? = .ok ⟨0xF155⟩ := next?_booted 0xF1 0x55 []
  obtain ⟨t, hc⟩ := exists_cycle_done rfl hi (by decide)
  obtain ⟨-, ho, -⟩ := cycle_owned (s := storing) (booted_reachable _)
  obtain ⟨ho, -⟩ := ho _ t hc
  refine ⟨t, hc, ho.memory 2 ?_, ho.screen (by decide), ho.stack (by decide), ho.v 1 ?_⟩
  · have hs : Instruction.stores ⟨0xF155⟩ storing.registers.index = Set.Ico 0 (0 + 1 + 1) := rfl
    rw [hs]
    simp
  · have ht : Instruction.targets ⟨0xF155⟩ = ∅ := rfl
    rw [ht]
    exact Set.notMem_empty 1

end Processor

end ChipEight
