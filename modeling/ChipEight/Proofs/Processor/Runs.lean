import ChipEight.Machine.Basic
import ChipEight.Proofs.Processor.Cycle

namespace ChipEight

inductive TimerEvent (τ : Type) where
  | tick (elapsed : τ)
  | step
  | writeDelay (value : ℤ)
  | writeSound (value : ℤ)

inductive Event (τ : Type) where
  | key (e : KeyEvent)
  | releaseAll
  | timer (e : TimerEvent τ)

inductive Action (τ : Type) where
  | cycle
  | event (e : Event τ)

variable {τ : Type} [TimeScale τ]

/-- A tick that fails still keeps the time that it took in. -/
def Timer.apply (t : Timer τ) : TimerEvent τ → Timer τ
  | .tick elapsed =>
    match t.tick elapsed with
    | .done _ t => t
    | .failed _ t => t
  | .step => t.step
  | .writeDelay value => t.writeDelay value
  | .writeSound value => t.writeSound value

namespace Event

omit [TimeScale τ] in
def onKeypad (p : Keypad) : Event τ → Keypad
  | key e => p.apply e
  | releaseAll => p.releaseAll
  | timer _ => p

def onTimer (t : Timer τ) : Event τ → Timer τ
  | timer e => t.apply e
  | _ => t

end Event

namespace Processor

def undergo (s : Processor τ) (e : Event τ) : Processor τ :=
  { s with keypad := e.onKeypad s.keypad, timer := e.onTimer s.timer }

def undergoAll (s : Processor τ) (es : List (Event τ)) : Processor τ := es.foldl undergo s

/-- A cycle that fails leaves the state of its failure. -/
def act (s : Processor τ) : Action τ → Processor τ
  | .cycle => s.cycle.state
  | .event e => s.undergo e

def run (s : Processor τ) (as : List (Action τ)) : Processor τ := as.foldl act s

def answer? (s : Processor τ) : Action τ → Option Instruction
  | .cycle =>
    match s.cycle with
    | .done r _ => r
    | .failed _ _ => none
  | .event _ => none

/-- What the cycles of a run answer, in order. An instruction that waits for a key is answered when
the wait begins and again when it ends. -/
def answers (s : Processor τ) : List (Action τ) → List Instruction
  | [] => []
  | a :: as => (s.answer? a).toList ++ answers (s.act a) as

/-- The states in the life of a processor, made from any setup with anything in its memory. -/
inductive Reachable : Processor τ → Prop
  | start {setup : Setup} {s : Processor τ} (memory : Memory) :
      start? setup = .ok s → Reachable { s with memory }
  | act {s : Processor τ} (a : Action τ) : Reachable s → Reachable (s.act a)

lemma start?_eq_ok {setup : Setup} {s : Processor τ} (h : start? setup = .ok s) :
    ∃ stack source, CallStack.empty? setup.stackCapacity = .ok stack ∧
      s = initial stack source setup.options := by
  rw [start?] at h
  cases hs : CallStack.empty? setup.stackCapacity with
  | error e =>
    rw [hs] at h
    cases h
  | ok stack =>
    rw [hs] at h
    cases hr : RandomSource.seeded? setup.seed with
    | error e =>
      rw [hr] at h
      cases h
    | ok source =>
      rw [hr] at h
      cases h
      exact ⟨stack, _, rfl, rfl⟩

def booted (program : List UInt8) : Processor τ :=
  { initial ⟨some 16, []⟩ (.cycle #[] 0) .standard with
    memory := (Memory.zeros.loadProgram program).2 }

lemma booted_reachable (program : List UInt8) : Reachable (τ := τ) (booted program) := by
  let setup : Setup := { Setup.standard with randomBytes := some #[] }
  have h : start? (τ := τ) setup = .ok (initial ⟨some 16, []⟩ (.cycle #[] 0) .standard) := rfl
  exact .start _ h

omit [TimeScale τ] in
lemma next?_loaded {s : Processor τ} {program : List UInt8} {k : ℕ}
    (hm : s.memory = (Memory.zeros.loadProgram program).2)
    (hp : s.registers.pc = .ofNat (Memory.programStart + k))
    (hk : k + 1 < Memory.programCapacity) :
    s.next? = .ok ⟨(program[k]?.getD 0).toUInt16 <<< 8 ||| (program[k + 1]?.getD 0).toUInt16⟩ := by
  have hz (j : ℕ) : Memory.zeros.cell j = 0 := by
    rw [Memory.cell, Memory.zeros, Vector.getElem?_replicate]
    split <;> rfl
  have ha := Memory.cell_loadProgram .zeros program (k := k) (by omega)
  have hb := Memory.cell_loadProgram .zeros program (k := k + 1) hk
  simp only [Memory.programCapacity, Memory.size, Memory.programStart] at hk
  have hn : s.registers.pc.toNat = Memory.programStart + k := by
    rw [hp, UInt16.toNat_ofNat_of_lt']
    simp only [Memory.programStart, UInt16.size]
    omega
  have hw : Memory.Within (Memory.programStart + k : ℕ) 2 := by
    simp only [Memory.Within, Memory.size, Memory.programStart]
    omega
  rw [next?_eq_ok_iff, hm, hn, Memory.readWord, if_pos hw, Int.toNat_natCast, ha, Nat.add_assoc,
    hb, hz, hz]

lemma next?_booted (a b : UInt8) (program : List UInt8) :
    (booted (τ := τ) (a :: b :: program)).next? = .ok ⟨a.toUInt16 <<< 8 ||| b.toUInt16⟩ := by
  have hm : (booted (τ := τ) (a :: b :: program)).memory =
      (Memory.zeros.loadProgram (a :: b :: program)).2 := rfl
  have hp : (booted (τ := τ) (a :: b :: program)).registers.pc =
      .ofNat (Memory.programStart + 0) := rfl
  have hi := next?_loaded hm hp (by decide)
  simpa using hi

lemma run_concat (s : Processor τ) (as : List (Action τ)) (a : Action τ) :
    s.run (as ++ [a]) = (s.run as).act a := List.foldl_concat ..

lemma answers_append (s : Processor τ) (as bs : List (Action τ)) :
    s.answers (as ++ bs) = s.answers as ++ (s.run as).answers bs := by
  induction as generalizing s with
  | nil => rfl
  | cons a as ih =>
    rw [List.cons_append, answers, answers, ih, List.append_assoc]
    rfl

lemma run_of_done {s t : Processor τ} {r : Option Instruction} (h : s.cycle = .done r t) :
    s.run [.cycle] = t := by
  change s.cycle.state = t
  rw [h]
  rfl

lemma Reachable.run {s : Processor τ} (h : Reachable s) (as : List (Action τ)) :
    Reachable (s.run as) := by
  induction as generalizing s with
  | nil => exact h
  | cons a as ih => exact ih (h.act a)

lemma next?_undergo (s : Processor τ) (e : Event τ) : (s.undergo e).next? = s.next? := rfl

lemma undergoAll_eq (s : Processor τ) (es : List (Event τ)) :
    s.undergoAll es =
      { s with keypad := es.foldl Event.onKeypad s.keypad
               timer := es.foldl Event.onTimer s.timer } := by
  induction es generalizing s with
  | nil => rfl
  | cons e es ih => exact ih (s.undergo e)

lemma wait_undergoAll (s : Processor τ) (es : List (Event τ)) :
    (s.undergoAll es).wait = s.wait := by
  rw [undergoAll_eq]

end Processor

end ChipEight
