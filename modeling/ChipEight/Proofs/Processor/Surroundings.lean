import ChipEight.Proofs.Processor.Shown

/-!
What surrounds a program: the keys, the counters, and the configuration of its processor. In other
surroundings an instruction does the same to everything else, unless it reads what is different.
-/

namespace ChipEight

variable {τ : Type}

structure Surroundings (τ : Type) where
  keypad : Keypad
  timer : Timer τ
  capacity : Option ℕ
  options : Options

namespace Outcome

variable {ε σ ρ π α : Type} {o : Outcome ε σ α} {f g : σ → ρ}

lemma mapState_congr (h : f o.state = g o.state) : o.mapState f = o.mapState g := by
  cases o with
  | done a s => exact congrArg (done a) h
  | failed e s => exact congrArg (failed e) h

lemma mapState_mapState {h : ρ → π} : (o.mapState f).mapState h = o.mapState (h ∘ f) := by
  cases o <;> rfl

lemma state_mapState : (o.mapState f).state = f o.state := by
  cases o <;> rfl

lemma answer_mapState : (o.mapState f).answer = o.answer := by
  cases o <;> rfl

end Outcome

namespace Processor

def placed (s : Processor τ) (e : Surroundings τ) : Processor τ :=
  { s with
    keypad := e.keypad
    timer := e.timer
    stack := { s.stack with capacity := e.capacity }
    options := e.options }

/-- Nothing that the instruction reads is different in the surroundings `e` with the sample `keys'`
of the keys. -/
def Overlooks (s : Processor τ) (keys : KeySample) (e : Surroundings τ) (keys' : KeySample)
    (i : Instruction) : Prop :=
  match i.opcode with
  | .call =>
    e.capacity = s.stack.capacity ∨
      ¬ s.stack.Full ∧ ¬ CallStack.Full { s.stack with capacity := e.capacity }
  | .shr | .shl => e.options.shiftUsesVy = s.options.shiftUsesVy ∨ s.v i.x = s.v i.y
  | .unknown => e.options.strict = s.options.strict
  | .ldVxDt => e.timer.delay = s.timer.delay
  | .skp | .sknp | .ldVxK => keys' = keys
  | _ => True

variable (s : Processor τ) (e : Surroundings τ)

lemma skipIf_placed (c : Bool) : (s.placed e).skipIf c = (s.skipIf c).placed e := by
  cases c <;> rfl

lemma ret_placed : (s.placed e).ret = s.ret.mapState (·.placed e) := by
  have hs : (s.placed e).stack.frames = s.stack.frames := rfl
  rw [ret, ret, CallStack.pop, CallStack.pop, hs]
  cases s.stack.frames <;> rfl

lemma call_placed {s : Processor τ} {e : Surroundings τ} (addr : ℕ)
    (h : e.capacity = s.stack.capacity ∨
      ¬ s.stack.Full ∧ ¬ CallStack.Full { s.stack with capacity := e.capacity }) :
    (s.placed e).call addr = (s.call addr).mapState (·.placed e) := by
  obtain hc | ⟨hs, he⟩ := h
  · have hp : (s.placed e).stack = s.stack := by
      rw [placed, hc]
    have hpc : (s.placed e).registers.pc = s.registers.pc := rfl
    rw [call, call, hp, hpc]
    cases hs : s.stack.push s.registers.pc.toNat with
    | error f => rfl
    | ok stack =>
      obtain ⟨-, rfl⟩ := CallStack.push_eq_ok_iff.mp hs
      simp only [Outcome.mapState, placed, hc]
      rfl
  · have h₁ : s.call addr = .done () _ := call_done_iff.mpr ⟨hs, rfl⟩
    have h₂ : (s.placed e).call addr = .done () _ := call_done_iff.mpr ⟨he, rfl⟩
    rw [h₁, h₂]
    rfl

lemma draw_placed (x y n : Digit) :
    (s.placed e).draw x y n = (s.draw x y n).mapState (·.placed e) := by
  have hm : (s.placed e).memory.readBlock (s.placed e).registers.index n.val =
      s.memory.readBlock s.registers.index n.val := rfl
  rw [draw, draw, hm]
  cases s.memory.readBlock s.registers.index n.val <;> rfl

lemma storeDecimal_placed (x : Digit) :
    (s.placed e).storeDecimal x = (s.storeDecimal x).mapState (·.placed e) := by
  have hm : (s.placed e).memory.writeBlock (s.placed e).registers.index
      (decimals ((s.placed e).v x)) = s.memory.writeBlock s.registers.index (decimals (s.v x)) := rfl
  rw [storeDecimal, storeDecimal, hm]
  cases s.memory.writeBlock s.registers.index (decimals (s.v x)) <;> rfl

lemma store_placed (x : Digit) :
    (s.placed e).store x = (s.store x).mapState (·.placed e) := by
  have hm : (s.placed e).memory.writeBlock (s.placed e).registers.index
      ((s.placed e).registers.upTo x) =
        s.memory.writeBlock s.registers.index (s.registers.upTo x) := rfl
  rw [store, store, hm]
  cases s.memory.writeBlock s.registers.index (s.registers.upTo x) <;> rfl

lemma load_placed (x : Digit) : (s.placed e).load x = (s.load x).mapState (·.placed e) := by
  have hm : (s.placed e).memory.readBlock (s.placed e).registers.index (x.val + 1 : ℕ) =
      s.memory.readBlock s.registers.index (x.val + 1 : ℕ) := rfl
  rw [load, load, hm]
  cases s.memory.readBlock s.registers.index (x.val + 1 : ℕ) <;> rfl

variable {s e} {keys keys' : KeySample} {i : Instruction}

lemma unknown_placed (h : e.options.strict = s.options.strict) :
    (s.placed e).unknown i = (s.unknown i).mapState (·.placed e) := by
  have ho : (s.placed e).options.strict = s.options.strict := h
  rw [unknown, unknown]
  dsimp only
  rw [ho]
  cases s.options.strict <;> rfl

lemma shiftSource_placed {x y : Digit}
    (h : e.options.shiftUsesVy = s.options.shiftUsesVy ∨ s.v x = s.v y) :
    (s.placed e).shiftSource x y = s.shiftSource x y := by
  change s.v (if e.options.shiftUsesVy then y else x) = _
  rw [shiftSource]
  obtain h | h := h
  · rw [h]
  · cases e.options.shiftUsesVy <;> cases s.options.shiftUsesVy <;> simp [h]

theorem execute_placed (h : s.Overlooks keys e keys' i) :
    (s.placed e).execute keys' i =
      (s.execute keys i).mapState (·.placed { e with timer := (s.placed e).timerAfter i }) := by
  rw [Overlooks] at h
  rw [execute, execute, timerAfter]
  cases ho : i.opcode
  case ret => exact s.ret_placed e
  case call =>
    rw [ho] at h
    exact call_placed i.nnn h
  case drw => exact s.draw_placed e i.x i.y i.n
  case ldBVx => exact s.storeDecimal_placed e i.x
  case ldMemVx => exact s.store_placed e i.x
  case ldVxMem => exact s.load_placed e i.x
  case unknown =>
    rw [ho] at h
    exact unknown_placed h
  case seVxKk | sneVxKk | seVxVy | sneVxVy =>
    simp only [skipIf_placed]
    rfl
  case skp | sknp =>
    simp only [ho] at h
    simp only [skipIf_placed, h]
    rfl
  case shr | shl =>
    simp only [ho] at h
    simp only [shr, shl, shiftSource_placed h]
    rfl
  case ldVxK =>
    simp only [ho] at h
    simp only [h]
    rfl
  case ldVxDt =>
    simp only [ho] at h
    have hd : (s.placed e).timer.delay = s.timer.delay := h
    simp only [hd]
    rfl
  all_goals rfl

lemma cycle_placed (hw : s.wait = none) (hi : s.next? = .ok i)
    (h : s.Overlooks s.keys e e.keypad.sample.1 i) :
    (s.placed e).cycle = s.cycle.mapState
      (·.placed ⟨e.keypad.sample.2, (s.placed e).timerAfter i, e.capacity, e.options⟩) := by
  let e' : Surroundings τ := { e with keypad := e.keypad.sample.2 }
  have ho : (s.sampled.advance 1).Overlooks s.keys e' e.keypad.sample.1 i := h
  have he : ((s.placed e).sampled.advance 1).execute (s.placed e).keys i =
      ((s.sampled.advance 1).placed e').execute e.keypad.sample.1 i := rfl
  rw [cycle_of_next? hw hi, cycle_of_next? (s := s.placed e) hw hi, he, execute_placed ho]
  cases (s.sampled.advance 1).execute s.keys i <;> rfl

lemma cycle_placed_of_error {f : Fault} (hw : s.wait = none) (hi : s.next? = .error f) :
    (s.placed e).cycle = s.cycle.mapState (·.placed { e with keypad := e.keypad.sample.2 }) := by
  rw [cycle_of_next?_error hw hi, cycle_of_next?_error (s := s.placed e) hw hi]
  rfl

lemma cycle_placed_of_wait {w : KeyWait} (hw : s.wait = some w) (hk : e.keypad.sample.1 = s.keys) :
    (s.placed e).cycle = s.cycle.mapState (·.placed { e with keypad := e.keypad.sample.2 }) := by
  have hk' : (s.placed e).keys = s.keys := hk
  rw [cycle_of_wait hw, cycle_of_wait (s := s.placed e) hw, hk', poll, poll]
  cases w.answer? s.keys <;> rfl

lemma timer_cycle (hw : s.wait = none) (hi : s.next? = .ok i) :
    s.cycle.state.timer = s.timerAfter i := by
  cases hc : s.cycle with
  | failed f t =>
    obtain ⟨-, ⟨he, -⟩ | ⟨j, hj, hf, rfl⟩⟩ := cycle_failed_iff.mp hc
    · rw [hi] at he
      cases he
    · rw [hi, Except.ok.injEq] at hj
      subst hj
      change s.timer = s.timerAfter i
      rw [timerAfter]
      rw [fault?] at hf
      split <;> simp_all
  | done r t =>
    obtain ⟨w, hw', -⟩ | ⟨-, j, u, hj, -, he, rfl⟩ := cycle_done_cases hc
    · rw [hw] at hw'
      cases hw'
    · rw [hi, Except.ok.injEq] at hj
      subst hj
      exact (execute_effect he).timer

lemma timer_cycle_of_error {f : Fault} (hw : s.wait = none) (hi : s.next? = .error f) :
    s.cycle.state.timer = s.timer := by
  rw [cycle_of_next?_error hw hi]
  rfl

lemma timer_cycle_of_wait {w : KeyWait} (hw : s.wait = some w) :
    s.cycle.state.timer = s.timer := by
  rw [cycle_of_wait hw, poll]
  cases w.answer? s.keys <;> rfl

end Processor

end ChipEight
