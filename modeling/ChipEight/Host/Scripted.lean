import ChipEight.Host
import ChipEight.TimeScale

/-!
A host that follows a script: a clock that moves at every reading, a window with key events and an
end at given polls, and a record of all that it is given.
-/

namespace ChipEight

/-- The polls are counted from 1. -/
structure ScriptedWindow where
  quitAt : Option Int
  interruptAt : Option Int
  keys : List (Int × KeyEvent)
  polls : Nat
  closed : Nat
  /-- The frames received, newest first. -/
  shown : List Framebuffer

structure ScriptedHost (τ : Type) where
  now : τ
  step : τ
  slept : τ
  window : Option ScriptedWindow
  /-- The settings of the sound, newest first; absent without sound. -/
  beeps : Option (List Bool)
  asked : Nat

inductive StopScript where
  | fromCall (k : Int)
  | register (x least : Int)
  /-- The caller stops the machine during a call, and answers that it may go on. -/
  | stopDuring (k : Int)
  deriving DecidableEq, Repr

namespace ScriptedHost

variable {τ : Type} [TimeScale τ]

def start (now step : τ) (window : Option ScriptedWindow) (sound : Bool) : ScriptedHost τ :=
  ⟨now, step, TimeScale.zero, window, if sound then some [] else none, 0⟩

def advance (s : ScriptedHost τ) (t : τ) : ScriptedHost τ := { s with now := s.now + t }

omit [TimeScale τ] in
def pollWindow (s : ScriptedHost τ) : Poll × ScriptedHost τ :=
  match s.window with
  | none => (.events [] true, s)
  | some w =>
    let n := w.polls + 1
    let s := { s with window := some { w with polls := n } }
    if w.interruptAt = some (n : Int) then (.interrupted, s)
    else
      (.events ((w.keys.filter (·.1 = (n : Int))).map (·.2)) (w.quitAt.all ((n : Int) < ·)), s)

def host : Host τ (ScriptedHost τ) where
  readClock s := (s.now + s.step, s.advance s.step)
  sleep t s := { s.advance t with slept := s.slept + t }
  hasWindow s := s.window.isSome
  poll := pollWindow
  present f s := .ok { s with window := s.window.map fun w => { w with shown := f :: w.shown } }
  closeWindow s :=
    ([], { s with window := s.window.map fun w => { w with closed := w.closed + 1 } })
  hasSound s := s.beeps.isSome
  setSound on s := { s with beeps := s.beeps.map (on :: ·) }

omit [TimeScale τ] in
def verdict (script : StopScript) (p : Processor τ) (s : ScriptedHost τ) :
    Except Registers.BadRegister Verdict × ScriptedHost τ :=
  let n := s.asked + 1
  let v : Except Registers.BadRegister Verdict := match script with
    | .fromCall k => .ok ⟨k ≤ n, false⟩
    | .register x least => (p.registers.get? x).map fun b => ⟨least ≤ b.toNat, false⟩
    | .stopDuring k => .ok ⟨false, k = n⟩
  (v, { s with asked := n })

omit [TimeScale τ] in
def clearRecord (s : ScriptedHost τ) : ScriptedHost τ :=
  { s with
    window := s.window.map fun w => { w with shown := [] }
    beeps := s.beeps.map fun _ => [] }

end ScriptedHost

end ChipEight
