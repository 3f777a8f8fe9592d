import ChipEight.CallStack
import ChipEight.Framebuffer
import ChipEight.Instruction
import ChipEight.Keypad
import ChipEight.Outcome
import ChipEight.RandomSource
import ChipEight.Registers
import ChipEight.Timer

namespace ChipEight

structure Options where
  /-- Shifts read Vy; otherwise they read Vx. -/
  shiftUsesVy : Bool
  /-- An unknown instruction is a fault; otherwise it does nothing. -/
  strict : Bool
  deriving DecidableEq, Repr

def Options.standard : Options := ⟨true, false⟩

structure KeyWait where
  register : Digit
  instruction : Instruction
  previous : KeySample
  deriving DecidableEq

/-- The least key that is pressed now and was not in the last sample. -/
def KeyWait.answer? (w : KeyWait) (keys : KeySample) : Option Digit :=
  (List.finRange 16).find? fun k => keys.get k && !w.previous.get k

structure Processor (τ : Type) where
  registers : Registers
  stack : CallStack
  memory : Memory
  screen : Framebuffer
  timer : Timer τ
  keypad : Keypad
  random : RandomSource
  wait : Option KeyWait
  /-- The instructions counted. One that waits for a key is counted when it begins to wait, and again
  when it is completed. -/
  executed : Nat
  unknowns : Nat
  options : Options

namespace Processor

variable {τ : Type} [TimeScale τ]

def initial (stack : CallStack) (random : RandomSource) (options : Options) : Processor τ where
  registers := .initial
  stack := stack
  memory := .zeros
  screen := .blank
  timer := .stopped
  keypad := .released
  random := random
  wait := none
  executed := 0
  unknowns := 0
  options := options

omit [TimeScale τ]

def v (s : Processor τ) (x : Digit) : UInt8 := s.registers.get x

def setV (s : Processor τ) (x : Digit) (b : UInt8) : Processor τ :=
  { s with registers := s.registers.set x b }

def setFlag (s : Processor τ) (on : Bool) : Processor τ :=
  { s with registers := s.registers.setFlag on }

def setIndex (s : Processor τ) (i : Int) : Processor τ :=
  { s with registers := s.registers.setIndex i }

def jump (s : Processor τ) (addr : Int) : Processor τ :=
  { s with registers := s.registers.jump addr }

def advance (s : Processor τ) (count : Int) : Processor τ :=
  { s with registers := s.registers.advance count }

def skipIf (s : Processor τ) (c : Bool) : Processor τ := if c then s.advance 1 else s

def next? (s : Processor τ) : Except Fault Instruction :=
  (s.memory.readWord s.registers.pc.toNat).map Instruction.mk

def fetch (s : Processor τ) : Except Fault (Instruction × Processor τ) :=
  s.next?.map fun i => (i, s.advance 1)

end Processor

end ChipEight
