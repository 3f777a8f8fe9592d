import ChipEight.CallStack
import Mathlib.Tactic

namespace ChipEight.CallStack

variable {s t : CallStack}

lemma empty?_frames {c : Option ℤ} (h : empty? c = .ok s) : s.frames = [] := by
  cases c with
  | none =>
    cases h
    rfl
  | some c =>
    simp only [empty?] at h
    split at h
    · cases h
    · cases h
      rfl

lemma push_eq_error_iff {addr : ℤ} {f : Fault} :
    s.push addr = .error f ↔
      ∃ c, s.capacity = some c ∧ c ≤ s.depth ∧ f = .stackOverflow c addr := by
  rw [push]
  cases hc : s.capacity with
  | none => simp
  | some c =>
    by_cases hd : c ≤ s.depth
    · simp [hd, eq_comm]
    · simp [hd]

lemma push_eq_ok_iff {addr : ℤ} :
    s.push addr = .ok t ↔ ¬ s.Full ∧ t = { s with frames := UInt16.ofInt addr :: s.frames } := by
  rw [push, Full]
  cases hc : s.capacity with
  | none => simp [eq_comm]
  | some c =>
    by_cases hd : c ≤ s.depth
    · simp [hd]
    · simp [hd, eq_comm]

lemma pop_eq_error_iff {f : Fault} :
    s.pop = .error f ↔ s.frames = [] ∧ f = .stackUnderflow := by
  rw [pop]
  cases s.frames with
  | nil => simp [eq_comm]
  | cons a rest => simp

lemma pop_eq_ok_iff {addr : UInt16} :
    s.pop = .ok (addr, t) ↔
      ∃ rest, s.frames = addr :: rest ∧ t = { s with frames := rest } := by
  rw [pop]
  cases s.frames with
  | nil => simp
  | cons a rest =>
    simp only [Except.ok.injEq, Prod.mk.injEq, List.cons.injEq, eq_comm (a := t)]
    constructor
    · rintro ⟨rfl, rfl⟩
      exact ⟨rest, ⟨rfl, rfl⟩, rfl⟩
    · rintro ⟨_, ⟨rfl, rfl⟩, rfl⟩
      exact ⟨rfl, rfl⟩

end ChipEight.CallStack
