namespace ChipEight

inductive Opcode where
  | nop | cls | ret | jp | call
  | seVxKk | sneVxKk | seVxVy | ldVxKk | addVxKk
  | ldVxVy | or | and | xor | addVxVy | sub | shr | subn | shl
  | sneVxVy | ldI | jpV0 | rnd | drw | skp | sknp
  | ldVxDt | ldVxK | ldDtVx | ldStVx | addIVx | ldFVx | ldBVx | ldMemVx | ldVxMem
  | unknown
  deriving DecidableEq, Repr

namespace Opcode

def all : List Opcode :=
  [nop, cls, ret, jp, call, seVxKk, sneVxKk, seVxVy, ldVxKk, addVxKk, ldVxVy, or, and, xor,
    addVxVy, sub, shr, subn, shl, sneVxVy, ldI, jpV0, rnd, drw, skp, sknp, ldVxDt, ldVxK, ldDtVx,
    ldStVx, addIVx, ldFVx, ldBVx, ldMemVx, ldVxMem, unknown]

def name : Opcode → String
  | nop => "NOP"
  | cls => "CLS"
  | ret => "RET"
  | jp => "JP"
  | call => "CALL"
  | seVxKk => "SE_VX_KK"
  | sneVxKk => "SNE_VX_KK"
  | seVxVy => "SE_VX_VY"
  | ldVxKk => "LD_VX_KK"
  | addVxKk => "ADD_VX_KK"
  | ldVxVy => "LD_VX_VY"
  | or => "OR"
  | and => "AND"
  | xor => "XOR"
  | addVxVy => "ADD_VX_VY"
  | sub => "SUB"
  | shr => "SHR"
  | subn => "SUBN"
  | shl => "SHL"
  | sneVxVy => "SNE_VX_VY"
  | ldI => "LD_I"
  | jpV0 => "JP_V0"
  | rnd => "RND"
  | drw => "DRW"
  | skp => "SKP"
  | sknp => "SKNP"
  | ldVxDt => "LD_VX_DT"
  | ldVxK => "LD_VX_K"
  | ldDtVx => "LD_DT_VX"
  | ldStVx => "LD_ST_VX"
  | addIVx => "ADD_I_VX"
  | ldFVx => "LD_F_VX"
  | ldBVx => "LD_B_VX"
  | ldMemVx => "LD_MEM_VX"
  | ldVxMem => "LD_VX_MEM"
  | unknown => "UNKNOWN"

/-- Digits stand for themselves and each of the letters `x`, `y`, `n`, `k` for any digit. -/
def pattern : Opcode → String
  | nop => "0000"
  | cls => "00E0"
  | ret => "00EE"
  | jp => "1nnn"
  | call => "2nnn"
  | seVxKk => "3xkk"
  | sneVxKk => "4xkk"
  | seVxVy => "5xy0"
  | ldVxKk => "6xkk"
  | addVxKk => "7xkk"
  | ldVxVy => "8xy0"
  | or => "8xy1"
  | and => "8xy2"
  | xor => "8xy3"
  | addVxVy => "8xy4"
  | sub => "8xy5"
  | shr => "8xy6"
  | subn => "8xy7"
  | shl => "8xyE"
  | sneVxVy => "9xy0"
  | ldI => "Annn"
  | jpV0 => "Bnnn"
  | rnd => "Cxkk"
  | drw => "Dxyn"
  | skp => "Ex9E"
  | sknp => "ExA1"
  | ldVxDt => "Fx07"
  | ldVxK => "Fx0A"
  | ldDtVx => "Fx15"
  | ldStVx => "Fx18"
  | addIVx => "Fx1E"
  | ldFVx => "Fx29"
  | ldBVx => "Fx33"
  | ldMemVx => "Fx55"
  | ldVxMem => "Fx65"
  | unknown => "????"

def arithmetic : Int → Opcode
  | 0x0 => ldVxVy
  | 0x1 => or
  | 0x2 => and
  | 0x3 => xor
  | 0x4 => addVxVy
  | 0x5 => sub
  | 0x6 => shr
  | 0x7 => subn
  | 0xE => shl
  | _ => unknown

def keys : Nat → Opcode
  | 0x9E => skp
  | 0xA1 => sknp
  | _ => unknown

def services : Nat → Opcode
  | 0x07 => ldVxDt
  | 0x0A => ldVxK
  | 0x15 => ldDtVx
  | 0x18 => ldStVx
  | 0x1E => addIVx
  | 0x29 => ldFVx
  | 0x33 => ldBVx
  | 0x55 => ldMemVx
  | 0x65 => ldVxMem
  | _ => unknown

/-- Two digits side by side, as bits; a negative digit leaves no byte. -/
def joined? (high low : Int) : Option Nat :=
  if 0 ≤ high ∧ 0 ≤ low then some (high.toNat <<< 4 ||| low.toNat) else none

/-- The tag of four digits. They need not lie between 0 and 15: a digit that no pattern names is
left unread. -/
def classify (n0 n1 n2 n3 : Int) : Opcode :=
  match n0 with
  | 0x0 =>
    if n1 = 0 ∧ n2 = 0 ∧ n3 = 0 then nop
    else if n1 = 0 ∧ n2 = 0xE ∧ n3 = 0 then cls
    else if n1 = 0 ∧ n2 = 0xE ∧ n3 = 0xE then ret
    else unknown
  | 0x1 => jp
  | 0x2 => call
  | 0x3 => seVxKk
  | 0x4 => sneVxKk
  | 0x5 => if n3 = 0 then seVxVy else unknown
  | 0x6 => ldVxKk
  | 0x7 => addVxKk
  | 0x8 => arithmetic n3
  | 0x9 => if n3 = 0 then sneVxVy else unknown
  | 0xA => ldI
  | 0xB => jpV0
  | 0xC => rnd
  | 0xD => drw
  | 0xE => (joined? n2 n3).elim unknown keys
  | 0xF => (joined? n2 n3).elim unknown services
  | _ => unknown

end Opcode

end ChipEight
