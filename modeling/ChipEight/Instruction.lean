import ChipEight.Digit
import ChipEight.Opcode
import ChipEight.Text.Hex

namespace ChipEight

structure Instruction where
  word : UInt16
  deriving DecidableEq, Repr

structure Operands where
  word : Int
  x : Int
  y : Int
  n : Int
  deriving DecidableEq, Repr

namespace Operands

def kk (o : Operands) : Int := o.word % 0x100

def nnn (o : Operands) : Int := o.word % 0x1000

end Operands

open Text in
def Opcode.text (op : Opcode) (o : Operands) : String :=
  let vx := "V" ++ hex 1 o.x
  let vy := "V" ++ hex 1 o.y
  let byte := "0x" ++ hex 2 o.kk
  let addr := "0x" ++ hex 3 o.nnn
  match op with
  | .nop => "NOP"
  | .cls => "CLS"
  | .ret => "RET"
  | .jp => "JP " ++ addr
  | .call => "CALL " ++ addr
  | .seVxKk => "SE " ++ vx ++ ", " ++ byte
  | .sneVxKk => "SNE " ++ vx ++ ", " ++ byte
  | .seVxVy => "SE " ++ vx ++ ", " ++ vy
  | .ldVxKk => "LD " ++ vx ++ ", " ++ byte
  | .addVxKk => "ADD " ++ vx ++ ", " ++ byte
  | .ldVxVy => "LD " ++ vx ++ ", " ++ vy
  | .or => "OR " ++ vx ++ ", " ++ vy
  | .and => "AND " ++ vx ++ ", " ++ vy
  | .xor => "XOR " ++ vx ++ ", " ++ vy
  | .addVxVy => "ADD " ++ vx ++ ", " ++ vy
  | .sub => "SUB " ++ vx ++ ", " ++ vy
  | .shr => "SHR " ++ vx ++ ", " ++ vy
  | .subn => "SUBN " ++ vx ++ ", " ++ vy
  | .shl => "SHL " ++ vx ++ ", " ++ vy
  | .sneVxVy => "SNE " ++ vx ++ ", " ++ vy
  | .ldI => "LD I, " ++ addr
  | .jpV0 => "JP V0, " ++ addr
  | .rnd => "RND " ++ vx ++ ", " ++ byte
  | .drw => "DRW " ++ vx ++ ", " ++ vy ++ ", " ++ toString o.n
  | .skp => "SKP " ++ vx
  | .sknp => "SKNP " ++ vx
  | .ldVxDt => "LD " ++ vx ++ ", DT"
  | .ldVxK => "LD " ++ vx ++ ", K"
  | .ldDtVx => "LD DT, " ++ vx
  | .ldStVx => "LD ST, " ++ vx
  | .addIVx => "ADD I, " ++ vx
  | .ldFVx => "LD F, " ++ vx
  | .ldBVx => "LD B, " ++ vx
  | .ldMemVx => "LD [I], " ++ vx
  | .ldVxMem => "LD " ++ vx ++ ", [I]"
  | .unknown => "DW 0x" ++ hex 4 o.word

namespace Instruction

def size : Nat := 2

/-- Only the low sixteen bits of a number are an instruction. -/
def ofInt (word : Int) : Instruction := ⟨UInt16.ofInt word⟩

/-- The digit at position `k`, position 0 being the least significant. -/
def digit (i : Instruction) (k : Nat) : Digit :=
  Digit.last (i.word.toNat >>> (4 * k))

def x (i : Instruction) : Digit := i.digit 2

def y (i : Instruction) : Digit := i.digit 1

def n (i : Instruction) : Digit := i.digit 0

def kk (i : Instruction) : UInt8 := i.word.toUInt8

def nnn (i : Instruction) : Nat := i.word.toNat % 0x1000

def digits (i : Instruction) : List Nat := [3, 2, 1, 0].map fun k => (i.digit k).val

def opcode (i : Instruction) : Opcode :=
  Opcode.classify (i.digit 3).val i.x.val i.y.val i.n.val

def operands (i : Instruction) : Operands :=
  ⟨i.word.toNat, i.x.val, i.y.val, i.n.val⟩

def text (i : Instruction) : String := i.opcode.text i.operands

def line (addr : Int) (i : Instruction) : String :=
  "0x" ++ Text.hex 3 addr ++ ": " ++ Text.hex 4 i.word.toNat ++ "  " ++ i.text

end Instruction

end ChipEight
