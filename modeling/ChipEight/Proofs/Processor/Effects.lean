import ChipEight.Proofs.Processor.Faults

/-!
The effect of an instruction that succeeds, component by component. The tables speak of the state
before the fetch, in which the program counter stands at the instruction.
-/

namespace ChipEight.Processor

variable {τ : Type}

section Tables

variable (s : Processor τ) (keys : KeySample) (i : Instruction)

def skips : Bool :=
  match i.opcode with
  | .seVxKk => s.v i.x == i.kk
  | .sneVxKk => s.v i.x != i.kk
  | .seVxVy => s.v i.x == s.v i.y
  | .sneVxVy => s.v i.x != s.v i.y
  | .skp => s.keyOf keys i.x
  | .sknp => !s.keyOf keys i.x
  | _ => false

def pcAfter : UInt16 :=
  match i.opcode with
  | .jp | .call => .ofNat i.nnn
  | .jpV0 => .ofNat (i.nnn + (s.v (.last 0)).toNat)
  | .ret => s.stack.frames.headD 0
  | .ldVxK => s.registers.pc
  | _ => (s.registers.advance (if s.skips keys i then 2 else 1)).pc

def indexAfter : ℤ :=
  match i.opcode with
  | .ldI => i.nnn
  | .ldFVx => (Memory.glyphStart + (s.v i.x).toNat % 16 * Glyphs.height : ℕ)
  | .addIVx => s.registers.index + (s.v i.x).toNat
  | .ldMemVx | .ldVxMem => s.registers.index + (i.x + 1 : ℕ)
  | _ => s.registers.index

def framesAfter : List UInt16 :=
  match i.opcode with
  | .call => (s.registers.advance 1).pc :: s.stack.frames
  | .ret => s.stack.frames.tail
  | _ => s.stack.frames

def timerAfter : Timer τ :=
  match i.opcode with
  | .ldDtVx => s.timer.writeDelay (s.v i.x).toNat
  | .ldStVx => s.timer.writeSound (s.v i.x).toNat
  | _ => s.timer

end Tables

/-- The components that an instruction changes, and how; the others remain. -/
structure Effect (s : Processor τ) (keys : KeySample) (i : Instruction) (t : Processor τ) :
    Prop where
  pc : t.registers.pc = s.pcAfter keys i
  index : t.registers.index = s.indexAfter i
  stack : t.stack = { s.stack with frames := s.framesAfter i }
  memory : i.opcode ∉ [.ldBVx, .ldMemVx] → t.memory = s.memory
  screen : i.opcode ∉ [.cls, .drw] → t.screen = s.screen
  timer : t.timer = s.timerAfter i
  keypad : t.keypad = s.keypad
  random : t.random = if i.opcode = .rnd then s.random.draw.2 else s.random
  wait : t.wait = if i.opcode = .ldVxK then some ⟨i.x, i, keys⟩ else s.wait
  executed : t.executed = s.executed
  unknowns : t.unknowns = s.unknowns + if i.opcode = .unknown then 1 else 0
  options : t.options = s.options

variable {s t : Processor τ} {keys : KeySample} {i : Instruction} {x y : Digit}

lemma ret_done_iff :
    s.ret = .done () t ↔
      ∃ addr rest, s.stack.frames = addr :: rest ∧
        t = { s with stack := { s.stack with frames := rest }
                     registers := { s.registers with pc := addr } } := by
  rw [ret]
  cases hp : s.stack.pop with
  | error f =>
    obtain ⟨hs, -⟩ := CallStack.pop_eq_error_iff.mp hp
    simp [hs]
  | ok p =>
    obtain ⟨addr, stack⟩ := p
    obtain ⟨rest, hs, rfl⟩ := CallStack.pop_eq_ok_iff.mp hp
    simp only [hs, jump, Registers.jump_toNat]
    constructor
    · intro h
      cases h
      exact ⟨addr, rest, rfl, rfl⟩
    · rintro ⟨_, _, h, rfl⟩
      cases h
      rfl

lemma call_done_iff {addr : ℕ} :
    s.call addr = .done () t ↔
      ¬ s.stack.Full ∧
        t = { s with stack := { s.stack with frames := s.registers.pc :: s.stack.frames }
                     registers := s.registers.jump addr } := by
  rw [call]
  cases hp : s.stack.push s.registers.pc.toNat with
  | error f =>
    obtain ⟨c, hc, hd, -⟩ := CallStack.push_eq_error_iff.mp hp
    have hf : s.stack.Full := ⟨c, hc, hd⟩
    simp [hf]
  | ok stack =>
    obtain ⟨hf, rfl⟩ := CallStack.push_eq_ok_iff.mp hp
    simp [hf, jump, Registers.ofInt_toNat, eq_comm]

lemma draw_done {n : Digit} (h : s.draw x y n = .done () t) :
    ∃ sprite, s.memory.readBlock s.registers.index n = .ok sprite ∧
      t = { s with screen := (s.screen.draw (s.v x).toNat (s.v y).toNat sprite).2 }.setFlag
        (s.screen.draw (s.v x).toNat (s.v y).toNat sprite).1 := by
  rw [draw] at h
  cases hr : s.memory.readBlock s.registers.index n.val with
  | error f =>
    rw [hr] at h
    cases h
  | ok sprite =>
    rw [hr] at h
    cases h
    exact ⟨sprite, rfl, rfl⟩

lemma storeDecimal_done (h : s.storeDecimal x = .done () t) :
    ∃ memory, s.memory.writeBlock s.registers.index (decimals (s.v x)) = .ok memory ∧
      t = { s with memory } := by
  rw [storeDecimal] at h
  cases hm : s.memory.writeBlock s.registers.index (decimals (s.v x)) with
  | error f =>
    rw [hm] at h
    cases h
  | ok memory =>
    rw [hm] at h
    cases h
    exact ⟨memory, rfl, rfl⟩

lemma store_done (h : s.store x = .done () t) :
    ∃ memory, s.memory.writeBlock s.registers.index (s.registers.upTo x) = .ok memory ∧
      t = { s with memory }.passBlock x := by
  rw [store] at h
  cases hm : s.memory.writeBlock s.registers.index (s.registers.upTo x) with
  | error f =>
    rw [hm] at h
    cases h
  | ok memory =>
    rw [hm] at h
    cases h
    exact ⟨memory, rfl, rfl⟩

lemma load_done (h : s.load x = .done () t) :
    ∃ bytes, s.memory.readBlock s.registers.index (x + 1 : ℕ) = .ok bytes ∧
      t = { s with registers := s.registers.fill bytes }.passBlock x := by
  rw [load] at h
  cases hm : s.memory.readBlock s.registers.index (x.val + 1 : ℕ) with
  | error f =>
    rw [hm] at h
    cases h
  | ok bytes =>
    rw [hm] at h
    cases h
    exact ⟨bytes, rfl, rfl⟩

lemma unknown_done_iff :
    s.unknown i = .done () t ↔
      s.options.strict = false ∧ t = { s with unknowns := s.unknowns + 1 } := by
  rw [unknown]
  cases s.options.strict <;> simp [eq_comm]

lemma skipIf_eq (c : Bool) : (s.advance 1).skipIf c = s.advance (if c then 2 else 1) := by
  cases c with
  | false => rfl
  | true =>
    change { s with registers := (s.registers.advance 1).advance 1 } = s.advance 2
    rw [Registers.advance_advance]
    rfl

lemma Effect.of_registers {r : Registers} (hp : r.pc = s.pcAfter keys i)
    (hi : r.index = s.indexAfter i)
    (ho : i.opcode ∉ [.ret, .call, .rnd, .ldVxK, .ldDtVx, .ldStVx, .unknown]) :
    Effect s keys i { s with registers := r } := by
  simp only [List.mem_cons, List.not_mem_nil, or_false, not_or] at ho
  obtain ⟨hret, hcall, hrnd, hkey, hdelay, hsound, hunknown⟩ := ho
  have hf : s.framesAfter i = s.stack.frames := by
    rw [framesAfter]
    split <;> simp_all
  have ht : s.timerAfter i = s.timer := by
    rw [timerAfter]
    split <;> simp_all
  refine ⟨hp, hi, ?_, fun _ => rfl, fun _ => rfl, ht.symm, rfl, ?_, ?_, rfl, ?_, rfl⟩
  · rw [hf]
  · rw [if_neg hrnd]
  · rw [if_neg hkey]
  · simp [hunknown]

lemma waitKey_eq : (s.advance 1).waitKey keys i = { s with wait := some ⟨i.x, i, keys⟩ } := by
  have h : (s.registers.advance 1).advance (-1) = s.registers := Registers.advance_back _ _
  change { s with registers := (s.registers.advance 1).advance (-1)
                  wait := some ⟨i.x, i, keys⟩ } = _
  rw [h]

theorem execute_effect (h : (s.advance 1).execute keys i = .done () t) : Effect s keys i t := by
  rw [execute] at h
  cases ho : i.opcode with
  | ret =>
    rw [ho] at h
    obtain ⟨addr, rest, hs, rfl⟩ := ret_done_iff.mp h
    change s.stack.frames = addr :: rest at hs
    refine ⟨?_, ?_, ?_, fun _ => rfl, fun _ => rfl, ?_, rfl, ?_, ?_, rfl, ?_, rfl⟩ <;>
      simp only [pcAfter, indexAfter, framesAfter, timerAfter, ho, hs, reduceCtorEq] <;> rfl
  | call =>
    rw [ho] at h
    obtain ⟨-, rfl⟩ := call_done_iff.mp h
    refine ⟨?_, ?_, ?_, fun _ => rfl, fun _ => rfl, ?_, rfl, ?_, ?_, rfl, ?_, rfl⟩ <;>
      simp only [pcAfter, indexAfter, framesAfter, timerAfter, Registers.pc_jump, ho,
        reduceCtorEq] <;> rfl
  | drw =>
    rw [ho] at h
    obtain ⟨sprite, -, rfl⟩ := draw_done h
    refine ⟨?_, ?_, ?_, fun _ => rfl, fun hs => ?_, ?_, rfl, ?_, ?_, rfl, ?_, rfl⟩
    on_goal 4 => simp [ho] at hs
    all_goals
      simp only [pcAfter, skips, indexAfter, framesAfter, timerAfter, ho, reduceCtorEq]
      rfl
  | ldBVx =>
    rw [ho] at h
    obtain ⟨memory, -, rfl⟩ := storeDecimal_done h
    refine ⟨?_, ?_, ?_, fun hm => ?_, fun _ => rfl, ?_, rfl, ?_, ?_, rfl, ?_, rfl⟩
    on_goal 4 => simp [ho] at hm
    all_goals
      simp only [pcAfter, skips, indexAfter, framesAfter, timerAfter, ho, reduceCtorEq]
      rfl
  | ldMemVx =>
    rw [ho] at h
    obtain ⟨memory, -, rfl⟩ := store_done h
    refine ⟨?_, ?_, ?_, fun hm => ?_, fun _ => rfl, ?_, rfl, ?_, ?_, rfl, ?_, rfl⟩
    on_goal 4 => simp [ho] at hm
    all_goals
      simp only [pcAfter, skips, indexAfter, framesAfter, timerAfter, ho, reduceCtorEq]
      rfl
  | ldVxMem =>
    rw [ho] at h
    obtain ⟨bytes, -, rfl⟩ := load_done h
    refine .of_registers ?_ ?_ (by simp [ho])
    · simp only [pcAfter, skips, ho]
      rfl
    · simp only [indexAfter, ho]
      rfl
  | unknown =>
    rw [ho] at h
    obtain ⟨-, rfl⟩ := unknown_done_iff.mp h
    refine ⟨?_, ?_, ?_, fun _ => rfl, fun _ => rfl, ?_, rfl, ?_, ?_, rfl, ?_, rfl⟩ <;>
      simp only [pcAfter, skips, indexAfter, framesAfter, timerAfter, ho, reduceCtorEq] <;> rfl
  | ldVxK =>
    simp only [ho, Outcome.done.injEq, true_and, waitKey_eq] at h
    subst h
    refine ⟨?_, ?_, ?_, fun _ => rfl, fun _ => rfl, ?_, rfl, ?_, ?_, rfl, ?_, rfl⟩ <;>
      simp only [pcAfter, indexAfter, framesAfter, timerAfter, ho, reduceCtorEq] <;> rfl
  | cls =>
    simp only [ho, Outcome.done.injEq, true_and] at h
    subst h
    refine ⟨?_, ?_, ?_, fun _ => rfl, fun hs => ?_, ?_, rfl, ?_, ?_, rfl, ?_, rfl⟩
    on_goal 4 => simp [ho] at hs
    all_goals
      simp only [pcAfter, skips, indexAfter, framesAfter, timerAfter, ho, reduceCtorEq]
      rfl
  | rnd | ldDtVx | ldStVx =>
    simp only [ho, Outcome.done.injEq, true_and] at h
    subst h
    refine ⟨?_, ?_, ?_, fun _ => rfl, fun _ => rfl, ?_, rfl, ?_, ?_, rfl, ?_, rfl⟩ <;>
      simp only [pcAfter, skips, indexAfter, framesAfter, timerAfter, ho, reduceCtorEq] <;> rfl
  | seVxKk | sneVxKk | seVxVy | sneVxVy | skp | sknp =>
    simp only [ho, Outcome.done.injEq, true_and, skipIf_eq] at h
    subst h
    refine .of_registers ?_ ?_ (by simp [ho])
    · simp only [pcAfter, skips, ho]
      rfl
    · simp only [indexAfter, ho]
      rfl
  | jp | jpV0 =>
    simp only [ho, Outcome.done.injEq, true_and] at h
    subst h
    refine .of_registers ?_ ?_ (by simp [ho])
    · simp only [pcAfter, ho]
      exact Registers.pc_jump _ _
    · simp only [indexAfter, ho]
      rfl
  | _ =>
    simp only [ho, Outcome.done.injEq, true_and] at h
    subst h
    refine .of_registers ?_ ?_ (by simp [ho])
    · simp only [pcAfter, skips, ho]
      rfl
    · simp only [indexAfter, ho]
      rfl

lemma exists_cycle_effect (hw : s.wait = none) (hi : s.next? = .ok i) (hf : s.fault? i = none) :
    ∃ u, s.cycle = .done (some i) { u with executed := u.executed + 1 } ∧
      Effect s.sampled s.keys i u := by
  obtain ⟨u, he, hc⟩ := exists_cycle_execute hw hi hf
  exact ⟨u, hc, execute_effect he⟩

lemma cycle_of_ldVxK (hw : s.wait = none) (hi : s.next? = .ok i) (ho : i.opcode = .ldVxK) :
    s.cycle = .done (some i)
      { s.sampled with wait := some ⟨i.x, i, s.keys⟩, executed := s.executed + 1 } := by
  have he : (s.sampled.advance 1).execute s.keys i =
      .done () { s.sampled with wait := some ⟨i.x, i, s.keys⟩ } := by
    rw [← waitKey_eq, execute, ho]
  rw [cycle_of_next? hw hi, he]
  rfl

lemma cycle_state_cases (s : Processor τ) :
    (∃ registers wait executed unknowns,
        s.cycle.state = { s.sampled with registers, wait, executed, unknowns }) ∨
      ∃ i u, (s.sampled.advance 1).execute s.keys i = .done () u ∧
        s.cycle.state = { u with executed := u.executed + 1 } := by
  cases hc : s.cycle with
  | failed f t =>
    obtain ⟨-, ⟨-, ht⟩ | ⟨i, -, -, ht⟩⟩ := cycle_failed_iff.mp hc
    · exact .inl ⟨_, _, _, _, ht⟩
    · exact .inl ⟨_, _, _, _, ht⟩
  | done r t =>
    obtain ⟨w, -, -, ht⟩ | ⟨-, i, u, -, -, he, ht⟩ := cycle_done_cases hc
    · left
      rw [Outcome.state, ht, poll]
      cases w.answer? s.keys with
      | none => exact ⟨_, _, _, _, rfl⟩
      | some k => exact ⟨_, _, _, _, rfl⟩
    · exact .inr ⟨i, u, he, ht⟩

lemma keypad_cycle : s.cycle.state.keypad = s.sampled.keypad := by
  obtain ⟨registers, wait, executed, unknowns, hs⟩ | ⟨i, u, he, hs⟩ := s.cycle_state_cases
  · rw [hs]
  · rw [hs]
    exact (execute_effect he).keypad

end ChipEight.Processor
