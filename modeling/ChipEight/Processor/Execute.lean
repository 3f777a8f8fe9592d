import ChipEight.Processor.Basic

/-!
The effect of each instruction. The program counter already points behind the instruction; a
failed instruction leaves the state of the moment of its failure.
-/

namespace ChipEight.Processor

variable {τ : Type}

abbrev Result (τ : Type) := Outcome Fault (Processor τ) Unit

def ret (s : Processor τ) : Result τ :=
  match s.stack.pop with
  | .error f => .failed f s
  | .ok (addr, stack) => .done () ({ s with stack := stack }.jump addr.toNat)

def call (s : Processor τ) (addr : Nat) : Result τ :=
  match s.stack.push s.registers.pc.toNat with
  | .error f => .failed f s
  | .ok stack => .done () ({ s with stack := stack }.jump addr)

/-- Sets Vx, and then VF if the flag is given: with x = F the flag remains. -/
def setResult (s : Processor τ) (x : Digit) (b : UInt8) (flag : Bool) : Processor τ :=
  (s.setV x b).setFlag flag

def add (s : Processor τ) (x y : Digit) : Processor τ :=
  s.setResult x (s.v x + s.v y) (0xFF < (s.v x).toNat + (s.v y).toNat)

def sub (s : Processor τ) (x y : Digit) : Processor τ :=
  s.setResult x (s.v x - s.v y) (s.v y < s.v x)

def subn (s : Processor τ) (x y : Digit) : Processor τ :=
  s.setResult x (s.v y - s.v x) (s.v x < s.v y)

def shiftSource (s : Processor τ) (x y : Digit) : UInt8 :=
  s.v (if s.options.shiftUsesVy then y else x)

def shr (s : Processor τ) (x y : Digit) : Processor τ :=
  let b := s.shiftSource x y
  s.setResult x (b >>> 1) (b &&& 0x01 != 0)

def shl (s : Processor τ) (x y : Digit) : Processor τ :=
  let b := s.shiftSource x y
  s.setResult x (b <<< 1) (b &&& 0x80 != 0)

def rnd (s : Processor τ) (x : Digit) (mask : UInt8) : Processor τ :=
  let (b, source) := s.random.draw
  { s with random := source }.setV x (b &&& mask)

def draw (s : Processor τ) (x y n : Digit) : Result τ :=
  match s.memory.readBlock s.registers.index n.val with
  | .error f => .failed f s
  | .ok sprite =>
    let (hit, screen) := s.screen.draw (s.v x).toNat (s.v y).toNat sprite
    .done () ({ s with screen := screen }.setFlag hit)

def keyOf (s : Processor τ) (keys : KeySample) (x : Digit) : Bool :=
  keys.get (Digit.last (s.v x).toNat)

def waitKey (s : Processor τ) (keys : KeySample) (i : Instruction) : Processor τ :=
  { s.advance (-1) with wait := some ⟨i.x, i, keys⟩ }

def decimals (b : UInt8) : List UInt8 := [b / 100, b / 10 % 10, b % 10]

def storeDecimal (s : Processor τ) (x : Digit) : Result τ :=
  match s.memory.writeBlock s.registers.index (decimals (s.v x)) with
  | .error f => .failed f s
  | .ok memory => .done () { s with memory := memory }

def passBlock (s : Processor τ) (x : Digit) : Processor τ :=
  s.setIndex (s.registers.index + (x.val + 1 : Nat))

def store (s : Processor τ) (x : Digit) : Result τ :=
  match s.memory.writeBlock s.registers.index (s.registers.upTo x) with
  | .error f => .failed f s
  | .ok memory => .done () ({ s with memory := memory }.passBlock x)

def load (s : Processor τ) (x : Digit) : Result τ :=
  match s.memory.readBlock s.registers.index (x.val + 1 : Nat) with
  | .error f => .failed f s
  | .ok bytes => .done () ({ s with registers := s.registers.fill bytes }.passBlock x)

def current (s : Processor τ) : UInt16 := (s.registers.advance (-1)).pc

def unknown (s : Processor τ) (i : Instruction) : Result τ :=
  let s := { s with unknowns := s.unknowns + 1 }
  if s.options.strict then .failed (.unknownOpcode i.word.toNat s.current.toNat) s
  else .done () s

def execute (s : Processor τ) (keys : KeySample) (i : Instruction) : Result τ :=
  match i.opcode with
  | .nop => .done () s
  | .cls => .done () { s with screen := s.screen.clear }
  | .ret => s.ret
  | .jp => .done () (s.jump i.nnn)
  | .call => s.call i.nnn
  | .jpV0 => .done () (s.jump (i.nnn + (s.v (Digit.last 0)).toNat : Nat))
  | .seVxKk => .done () (s.skipIf (s.v i.x == i.kk))
  | .sneVxKk => .done () (s.skipIf (s.v i.x != i.kk))
  | .seVxVy => .done () (s.skipIf (s.v i.x == s.v i.y))
  | .sneVxVy => .done () (s.skipIf (s.v i.x != s.v i.y))
  | .ldVxKk => .done () (s.setV i.x i.kk)
  | .addVxKk => .done () (s.setV i.x (s.v i.x + i.kk))
  | .ldVxVy => .done () (s.setV i.x (s.v i.y))
  | .or => .done () (s.setV i.x (s.v i.x ||| s.v i.y))
  | .and => .done () (s.setV i.x (s.v i.x &&& s.v i.y))
  | .xor => .done () (s.setV i.x (s.v i.x ^^^ s.v i.y))
  | .addVxVy => .done () (s.add i.x i.y)
  | .sub => .done () (s.sub i.x i.y)
  | .shr => .done () (s.shr i.x i.y)
  | .subn => .done () (s.subn i.x i.y)
  | .shl => .done () (s.shl i.x i.y)
  | .ldI => .done () (s.setIndex i.nnn)
  | .rnd => .done () (s.rnd i.x i.kk)
  | .drw => s.draw i.x i.y i.n
  | .skp => .done () (s.skipIf (s.keyOf keys i.x))
  | .sknp => .done () (s.skipIf (!s.keyOf keys i.x))
  | .ldVxDt => .done () (s.setV i.x s.timer.delay)
  | .ldVxK => .done () (s.waitKey keys i)
  | .ldDtVx => .done () { s with timer := s.timer.writeDelay (s.v i.x).toNat }
  | .ldStVx => .done () { s with timer := s.timer.writeSound (s.v i.x).toNat }
  | .addIVx => .done () (s.setIndex (s.registers.index + (s.v i.x).toNat))
  | .ldFVx =>
    .done () (s.setIndex (Memory.glyphStart + (s.v i.x).toNat % 16 * Glyphs.height : Nat))
  | .ldBVx => s.storeDecimal i.x
  | .ldMemVx => s.store i.x
  | .ldVxMem => s.load i.x
  | .unknown => s.unknown i

end ChipEight.Processor
