import ChipEight.Processor.Execute
import ChipEight.Report

namespace ChipEight.Processor

variable {τ : Type}

def poll (s : Processor τ) (w : KeyWait) (keys : KeySample) : Option Instruction × Processor τ :=
  match w.answer? keys with
  | none => (none, { s with wait := some { w with previous := keys } })
  | some k =>
    (some w.instruction,
      { (s.setV w.register (UInt8.ofNat k.val)).advance 1 with
        wait := none
        executed := s.executed + 1 })

/-- The answer is the instruction completed; there is none while a key is waited for. -/
def cycle (s : Processor τ) : Outcome Fault (Processor τ) (Option Instruction) :=
  let (keys, keypad) := s.keypad.sample
  let s := { s with keypad := keypad }
  match s.wait with
  | some w =>
    let (i, s) := s.poll w keys
    .done i s
  | none =>
    match s.fetch with
    | .error f => .failed f s
    | .ok (i, s) =>
      match s.execute keys i with
      | .failed f s => .failed f s
      | .done _ s => .done (some i) { s with executed := s.executed + 1 }

def effectReports (s : Processor τ) (i : Instruction) : List Report :=
  match i.opcode with
  | .ldVxK => [.waiting i.x]
  | .ldDtVx => [.delayWritten (s.v i.x)]
  | .ldStVx => [.soundWritten (s.v i.x)]
  | .unknown => if s.options.strict then [] else [.unknownIgnored i.word s.current]
  | _ => []

def cycleReports (s : Processor τ) : List Report :=
  match s.wait with
  | some w =>
    match w.answer? s.keypad.sample.1 with
    | none => []
    | some k => [.keyTaken k w.register]
  | none =>
    match s.fetch with
    | .error _ => []
    | .ok (i, t) => .instruction s.registers.pc i :: t.effectReports i

end ChipEight.Processor
