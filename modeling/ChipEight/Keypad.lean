import ChipEight.Digit

/-!
Sixteen keys. A key pressed since the last sample shows in the next one even if it was released
in between.
-/

namespace ChipEight

abbrev KeySample := Vector Bool 16

structure Keypad where
  held : Vector Bool 16
  latched : Vector Bool 16
  deriving DecidableEq

/-- What an input source does to a key; numbers outside 0 to 15 name no key. -/
inductive KeyEvent where
  | press (key : Int)
  | release (key : Int)
  deriving DecidableEq, Repr

namespace Keypad

def released : Keypad := ⟨Vector.replicate 16 false, Vector.replicate 16 false⟩

def press (p : Keypad) (k : Int) : Keypad :=
  match Digit.ofInt? k with
  | some k => ⟨p.held.setIfInBounds k.val true, p.latched.setIfInBounds k.val true⟩
  | none => p

def release (p : Keypad) (k : Int) : Keypad :=
  match Digit.ofInt? k with
  | some k => { p with held := p.held.setIfInBounds k.val false }
  | none => p

def releaseAll (_ : Keypad) : Keypad := released

def apply (p : Keypad) : KeyEvent → Keypad
  | .press k => p.press k
  | .release k => p.release k

/-- Only the low four bits of the number count. -/
def isPressed (p : Keypad) (k : Int) : Bool :=
  p.held[(k % 16).toNat]?.getD false

/-- The keys held or latched; taking a sample drops the latches. -/
def sample (p : Keypad) : KeySample × Keypad :=
  (Vector.ofFn fun k => p.held.get k || p.latched.get k,
    { p with latched := Vector.replicate 16 false })

end Keypad

end ChipEight
