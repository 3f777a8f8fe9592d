import ChipEight.Fault

namespace ChipEight

structure CallStack where
  capacity : Option Nat
  /-- The newest frame comes first. -/
  frames : List UInt16
  deriving DecidableEq

namespace CallStack

def defaultCapacity : Int := 16

structure BadCapacity where
  capacity : Int
  deriving DecidableEq, Repr

def BadCapacity.message (e : BadCapacity) : String :=
  "Capacidad de pila inválida: " ++ toString e.capacity

def empty? : Option Int → Except BadCapacity CallStack
  | none => .ok ⟨none, []⟩
  | some c => if c < 1 then .error ⟨c⟩ else .ok ⟨some c.toNat, []⟩

def depth (s : CallStack) : Nat := s.frames.length

def Full (s : CallStack) : Prop := ∃ c, s.capacity = some c ∧ c ≤ s.depth

/-- A frame keeps sixteen bits of the address. -/
def push (s : CallStack) (addr : Int) : Except Fault CallStack :=
  match s.capacity with
  | some c =>
    if c ≤ s.depth then .error (.stackOverflow c addr)
    else .ok { s with frames := UInt16.ofInt addr :: s.frames }
  | none => .ok { s with frames := UInt16.ofInt addr :: s.frames }

def pop (s : CallStack) : Except Fault (UInt16 × CallStack) :=
  match s.frames with
  | [] => .error .stackUnderflow
  | addr :: rest => .ok (addr, { s with frames := rest })

def toList (s : CallStack) : List UInt16 := s.frames.reverse

end CallStack

end ChipEight
