import ChipEight.Proofs.Processor.Effects

namespace ChipEight

namespace Outcome

variable {ε σ ρ α : Type}

def answer : Outcome ε σ α → Except ε α
  | done a _ => .ok a
  | failed e _ => .error e

def mapState (f : σ → ρ) : Outcome ε σ α → Outcome ε ρ α
  | done a s => done a (f s)
  | failed e s => failed e (f s)

variable {o : Outcome ε σ α} {f : σ → ρ} {a : α} {e : ε} {r : ρ}

lemma answer_eq_ok : o.answer = .ok a ↔ ∃ s, o = .done a s := by
  cases o <;> simp [answer]

lemma answer_eq_error : o.answer = .error e ↔ ∃ s, o = .failed e s := by
  cases o <;> simp [answer]

lemma mapState_eq_done : o.mapState f = .done a r ↔ ∃ s, o = .done a s ∧ f s = r := by
  cases o <;> simp [mapState, and_comm]

lemma mapState_eq_failed : o.mapState f = .failed e r ↔ ∃ s, o = .failed e s ∧ f s = r := by
  cases o <;> simp [mapState, and_comm]

end Outcome

lemma Framebuffer.draw_markShown (f : Framebuffer) (x y : ℤ) (sprite : List UInt8) :
    (f.markShown.draw x y sprite).1 = (f.draw x y sprite).1 ∧
      (f.markShown.draw x y sprite).2.markShown = (f.draw x y sprite).2.markShown := by
  rw [draw, draw]
  split
  · exact ⟨rfl, rfl⟩
  · exact ⟨rfl, rfl⟩

namespace Processor

variable {τ : Type}

def shown (s : Processor τ) : Processor τ := { s with screen := s.screen.markShown }

variable (s : Processor τ) (keys : KeySample) (i : Instruction)

lemma skipIf_shown (c : Bool) : s.shown.skipIf c = (s.skipIf c).shown := by
  cases c <;> rfl

lemma ret_shown : s.shown.ret.mapState shown = s.ret.mapState shown := by
  have hs : s.shown.stack = s.stack := rfl
  rw [ret, ret, hs]
  cases s.stack.pop <;> rfl

lemma call_shown (addr : ℕ) :
    (s.shown.call addr).mapState shown = (s.call addr).mapState shown := by
  have hs : s.shown.stack.push s.shown.registers.pc.toNat = s.stack.push s.registers.pc.toNat := rfl
  rw [call, call, hs]
  cases s.stack.push s.registers.pc.toNat <;> rfl

lemma draw_shown (x y n : Digit) :
    (s.shown.draw x y n).mapState shown = (s.draw x y n).mapState shown := by
  have hm : s.shown.memory.readBlock s.shown.registers.index n.val =
      s.memory.readBlock s.registers.index n.val := rfl
  rw [draw, draw, hm]
  cases s.memory.readBlock s.registers.index n.val with
  | error f => rfl
  | ok sprite =>
    obtain ⟨hh, hs⟩ := s.screen.draw_markShown (s.v x).toNat (s.v y).toNat sprite
    have hd : s.shown.screen.draw (s.shown.v x).toNat (s.shown.v y).toNat sprite =
      s.screen.markShown.draw (s.v x).toNat (s.v y).toNat sprite := rfl
    dsimp only
    rw [hd]
    exact congrArg₂ (fun hit f => Outcome.done () ({ s with screen := f }.setFlag hit)) hh hs

lemma storeDecimal_shown (x : Digit) :
    (s.shown.storeDecimal x).mapState shown = (s.storeDecimal x).mapState shown := by
  have hm : s.shown.memory.writeBlock s.shown.registers.index (decimals (s.shown.v x)) =
      s.memory.writeBlock s.registers.index (decimals (s.v x)) := rfl
  rw [storeDecimal, storeDecimal, hm]
  cases s.memory.writeBlock s.registers.index (decimals (s.v x)) <;> rfl

lemma store_shown (x : Digit) :
    (s.shown.store x).mapState shown = (s.store x).mapState shown := by
  have hm : s.shown.memory.writeBlock s.shown.registers.index (s.shown.registers.upTo x) =
      s.memory.writeBlock s.registers.index (s.registers.upTo x) := rfl
  rw [store, store, hm]
  cases s.memory.writeBlock s.registers.index (s.registers.upTo x) <;> rfl

lemma load_shown (x : Digit) :
    (s.shown.load x).mapState shown = (s.load x).mapState shown := by
  have hm : s.shown.memory.readBlock s.shown.registers.index (x.val + 1 : ℕ) =
      s.memory.readBlock s.registers.index (x.val + 1 : ℕ) := rfl
  rw [load, load, hm]
  cases s.memory.readBlock s.registers.index (x.val + 1 : ℕ) <;> rfl

lemma unknown_shown :
    (s.shown.unknown i).mapState shown = (s.unknown i).mapState shown := by
  have ho : s.shown.options = s.options := rfl
  rw [unknown, unknown]
  dsimp only
  rw [ho]
  cases s.options.strict <;> rfl

lemma execute_shown :
    (s.shown.execute keys i).mapState shown = (s.execute keys i).mapState shown := by
  cases ho : i.opcode
  case ret => simpa only [execute, ho] using s.ret_shown
  case call => simpa only [execute, ho] using s.call_shown i.nnn
  case drw => simpa only [execute, ho] using s.draw_shown i.x i.y i.n
  case ldBVx => simpa only [execute, ho] using s.storeDecimal_shown i.x
  case ldMemVx => simpa only [execute, ho] using s.store_shown i.x
  case ldVxMem => simpa only [execute, ho] using s.load_shown i.x
  case unknown => simpa only [execute, ho] using s.unknown_shown i
  case seVxKk | sneVxKk | seVxVy | sneVxVy | skp | sknp =>
    simp only [execute, ho, skipIf_shown]
    rfl
  all_goals
    simp only [execute, ho]
    rfl

lemma poll_shown (w : KeyWait) :
    (s.shown.poll w keys).1 = (s.poll w keys).1 ∧
      (s.shown.poll w keys).2.shown = (s.poll w keys).2.shown := by
  rw [poll, poll]
  cases w.answer? keys <;> exact ⟨rfl, rfl⟩

theorem cycle_shown : s.shown.cycle.mapState shown = s.cycle.mapState shown := by
  cases hw : s.wait with
  | some w =>
    have hw' : s.shown.wait = some w := hw
    obtain ⟨h₁, h₂⟩ := s.sampled.poll_shown s.keys w
    rw [cycle_of_wait hw, cycle_of_wait hw']
    exact congrArg₂ Outcome.done h₁ h₂
  | none =>
    have hw' : s.shown.wait = none := hw
    have hn : s.shown.next? = s.next? := rfl
    cases hi : s.next? with
    | error f =>
      rw [cycle_of_next?_error hw hi, cycle_of_next?_error hw' (hn.trans hi)]
      rfl
    | ok i =>
      have he := execute_shown (s.sampled.advance 1) s.keys i
      have hs : (s.shown.sampled.advance 1).execute s.shown.keys i =
          (s.sampled.advance 1).shown.execute s.keys i := rfl
      rw [cycle_of_next? hw hi, cycle_of_next? hw' (hn.trans hi), hs]
      generalize (s.sampled.advance 1).shown.execute s.keys i = o at he ⊢
      generalize (s.sampled.advance 1).execute s.keys i = o' at he ⊢
      cases o <;> cases o'
      case done.done a t b u =>
        have ht : t.shown = u.shown := (Outcome.done.inj he).2
        refine congrArg (Outcome.done (some i)) ?_
        exact congrArg (fun r : Processor τ => { r with executed := r.executed + 1 }) ht
      case failed.failed f t g u =>
        obtain ⟨hf, ht⟩ := Outcome.failed.inj he
        exact congrArg₂ Outcome.failed hf ht
      case done.failed => cases he
      case failed.done => cases he

end Processor

end ChipEight
