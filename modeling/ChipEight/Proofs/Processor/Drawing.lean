import ChipEight.Proofs.Processor.Effects

namespace ChipEight

variable {τ : Type}

/-- A screen on which nothing was drawn is as it was; one that was drawn on is dirty. -/
def Framebuffer.Repainted (f : Framebuffer) : Bool → Framebuffer → Prop
  | false, g => g = f
  | true, g => g.dirty = true

def Outcome.completed {ε σ α : Type} : Outcome ε σ (Option α) → Option α
  | done r _ => r
  | failed _ _ => none

namespace Processor

variable {s t : Processor τ} {i : Instruction}

/-- If the next cycle completes the instruction, it erases the screen or draws a sprite of which a
part lies on it. -/
def repaints (s : Processor τ) (i : Instruction) : Bool :=
  s.wait.isNone && (i.opcode == .cls ||
    i.opcode == .drw && decide (Framebuffer.OnScreen (s.v i.x).toNat (s.v i.y).toNat i.n))

lemma repainted_draw {x y n : Digit} (hd : s.draw x y n = .done () t) :
    s.screen.Repainted (decide (Framebuffer.OnScreen (s.v x).toNat (s.v y).toNat n)) t.screen := by
  obtain ⟨sprite, hr, rfl⟩ := draw_done hd
  have hl : sprite.length = n := by simp [(Memory.readBlock_eq_ok_iff.mp hr).2, Memory.slice]
  change s.screen.Repainted _ (s.screen.draw (s.v x).toNat (s.v y).toNat sprite).2
  rw [Framebuffer.draw, hl]
  by_cases ho : Framebuffer.OnScreen (s.v x).toNat (s.v y).toNat n
  · rw [decide_eq_true ho, if_pos ho]
    rfl
  · rw [decide_eq_false ho, if_neg ho]
    rfl

lemma repainted_execute {keys : KeySample} (hw : s.wait = none)
    (he : (s.advance 1).execute keys i = .done () t) :
    s.screen.Repainted (s.repaints i) t.screen := by
  by_cases hm : i.opcode ∈ [.cls, .drw]
  · rw [execute] at he
    cases ho : i.opcode with
    | cls =>
      rw [ho] at he
      cases he
      simp [repaints, hw, ho, Framebuffer.Repainted, Framebuffer.clear, Framebuffer.blank]
    | drw =>
      rw [ho] at he
      have hd : s.repaints i =
          decide (Framebuffer.OnScreen (s.v i.x).toNat (s.v i.y).toNat i.n) := by
        simp [repaints, hw, ho]
      have hs : (s.advance 1).screen.Repainted _ t.screen := repainted_draw he
      rw [hd]
      exact hs
    | _ => simp [ho] at hm
  · have hd : s.repaints i = false := by
      simp only [List.mem_cons, List.not_mem_nil, or_false, not_or] at hm
      simp [repaints, hm]
    rw [hd]
    exact (execute_effect he).screen hm

lemma repainted_cycle (s : Processor τ) :
    s.screen.Repainted (s.cycle.completed.any s.repaints) s.cycle.state.screen := by
  cases hc : s.cycle with
  | failed f t =>
    change t.screen = s.screen
    obtain ⟨-, ⟨-, ht⟩ | ⟨i, -, -, ht⟩⟩ := cycle_failed_iff.mp hc
    · rw [ht]
      rfl
    · rw [ht]
      rfl
  | done r t =>
    change s.screen.Repainted (r.any s.repaints) t.screen
    obtain ⟨w, hw, -, ht⟩ | ⟨hw, i, u, -, rfl, he, ht⟩ := cycle_done_cases hc
    · have hd : r.any s.repaints = false := by
        cases r <;> simp [repaints, hw]
      rw [hd, ht, poll]
      cases w.answer? s.keys <;> rfl
    · have hs : s.sampled.screen.Repainted (s.sampled.repaints i) u.screen :=
        repainted_execute hw he
      rw [ht]
      exact hs

end Processor

end ChipEight
