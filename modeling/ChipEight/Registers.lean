import ChipEight.Digit
import ChipEight.Memory
import ChipEight.Word64

/-!
The registers: sixteen bytes V0 to VF, the program counter, and the index register, which is an
integer without bound.
-/

namespace ChipEight

structure Registers where
  v : Bytes 16
  index : Int
  pc : UInt16
  deriving DecidableEq

namespace Registers

def initial : Registers := ⟨Vector.replicate 16 0, 0, UInt16.ofNat Memory.programStart⟩

def flag : Digit := 0xF

def get (r : Registers) (x : Digit) : UInt8 := r.v.get x

def set (r : Registers) (x : Digit) (b : UInt8) : Registers :=
  { r with v := r.v.setIfInBounds x.val b }

def setFlag (r : Registers) (on : Bool) : Registers := r.set flag (if on then 1 else 0)

def jump (r : Registers) (addr : Int) : Registers := { r with pc := UInt16.ofInt addr }

def advance (r : Registers) (count : Int) : Registers := r.jump (r.pc.toNat + 2 * count)

def setIndex (r : Registers) (i : Int) : Registers := { r with index := i }

def upTo (r : Registers) (x : Digit) : List UInt8 := r.v.toList.take (x.val + 1)

def fill (r : Registers) (bytes : List UInt8) : Registers :=
  { r with v := Bytes.splice r.v 0 bytes }

/-- Negative numbers count from the end: -1 is VF. Others name no register. -/
def position? (i : Int) : Option Digit :=
  Digit.ofInt? (if i < 0 then i + 16 else i)

inductive BadRegister where
  | reading
  | writing
  | tooLarge
  deriving DecidableEq, Repr

namespace BadRegister

def message : BadRegister → String
  | reading => "list index out of range"
  | writing => "list assignment index out of range"
  | tooLarge => "cannot fit 'int' into an index-sized integer"

def ofNumber (i : Int) (e : BadRegister) : BadRegister :=
  if Word64.signed i then e else tooLarge

end BadRegister

def get? (r : Registers) (i : Int) : Except BadRegister UInt8 :=
  match position? i with
  | some x => .ok (r.get x)
  | none => .error (.ofNumber i .reading)

def set? (r : Registers) (i value : Int) : Except BadRegister Registers :=
  match position? i with
  | some x => .ok (r.set x (UInt8.ofInt value))
  | none => .error (.ofNumber i .writing)

end Registers

end ChipEight
